import ProtoRu.UplaneDecoderSimulation

namespace ProtoRu.UplaneIq

open Uplane DecodeOutcome

section

variable {Sample : Type} [Inhabited Sample] (decompressor : IqDecompressor Sample)
  (config : UplaneDecoderConfig)

lemma decodeAllSections_succ (rounds : Nat) (sections : List (UplaneSectionParams Sample))
    (bytes : Bytes) : decodeAllSections decompressor config (rounds + 1) sections bytes =
      match decodeSection decompressor config bytes with
      | .error (.failed .incomplete) => checkSections sections
      | .error (.failed .malformed) => .rejected
      | .error (.faulted fault) => .faulted fault
      | .ok (decoded, remaining) =>
        if (sections ++ [decoded]).length = resultsMaxNofSupportedSections then .rejected
        else decodeAllSections decompressor config rounds (sections ++ [decoded]) remaining := by
  cases bytes with
  | nil | cons byte rest => rfl

omit [Inhabited Sample] in
lemma checkSections_ends (sections : List (UplaneSectionParams Sample)) :
    checkSections sections ≠ .unfinished ∧ ∀ fault, checkSections sections ≠ .faulted fault := by
  cases sections <;> simp [checkSections]

lemma decodeAllSections_ne_unfinished {rounds : Nat}
    {sections : List (UplaneSectionParams Sample)} (bytes : Bytes)
    (hplaces : sections.length < resultsMaxNofSupportedSections)
    (hrounds : resultsMaxNofSupportedSections ≤ rounds + sections.length) :
    decodeAllSections decompressor config rounds sections bytes ≠ .unfinished := by
  induction rounds generalizing sections bytes with
  | zero => omega
  | succ rounds ih =>
    rw [decodeAllSections_succ]
    split
    · exact (checkSections_ends sections).1
    · simp
    · simp
    split_ifs with hfull
    · simp
    simp only [List.length_append, List.length_singleton] at hfull
    apply ih <;> simp only [List.length_append, List.length_singleton] <;> omega

lemma decodeSection_ne_outsideMessage (bytes : Bytes) :
    decodeSection decompressor config bytes ≠ .error (.faulted .outsideMessage) := by
  rw [followedBy_decodeSection]
  cases Uplane.decodeSection config bytes with
  | error failure => simp [continueWith]
  | ok result =>
    simp only [continueWith]
    cases decompressSection decompressor result.1 with
    | none | some decoded => simp [orStopped, Except.map]

lemma decodeAllSections_ne_outsideMessage (rounds : Nat)
    (sections : List (UplaneSectionParams Sample)) (bytes : Bytes) :
    decodeAllSections decompressor config rounds sections bytes ≠ .faulted .outsideMessage := by
  induction rounds generalizing sections bytes with
  | zero =>
    cases bytes with
    | nil => exact (checkSections_ends sections).2 _
    | cons byte rest => simp [decodeAllSections]
  | succ rounds ih =>
    rw [decodeAllSections_succ]
    split
    · exact (checkSections_ends sections).2 _
    · simp
    · rename_i fault hfault
      rintro houtside
      rw [faulted.injEq] at houtside
      rw [houtside] at hfault
      exact decodeSection_ne_outsideMessage decompressor config bytes hfault
    · split
      · simp
      · apply ih

variable {config}

variable {bytes : Bytes}

lemma decodeAllSections_round (rounds : Nat) (sections : List (UplaneSectionParams Sample))
    (bytes : Bytes) : decodeAllSections decompressor config (rounds + 1) sections bytes =
      if SectionComplete config bytes then
        match decompressSection decompressor (sectionAt config bytes) with
        | none => .faulted .applicationStopped
        | some decoded =>
          if (sections ++ [decoded]).length = resultsMaxNofSupportedSections then .rejected
          else decodeAllSections decompressor config rounds (sections ++ [decoded])
            (bytesAfterSection config bytes)
      else if NamesReserved config bytes then .rejected
      else checkSections sections := by
  rw [decodeAllSections_succ, decodeSection_eq]
  by_cases hcompl : SectionComplete config bytes
  · rw [if_pos hcompl, if_pos hcompl]
    cases decompressSection decompressor (sectionAt config bytes) <;> rfl
  · rw [if_neg hcompl, if_neg hcompl]
    by_cases hnames : NamesReserved config bytes <;> simp [hnames]

/-- The first round needs a complete section. In the second, one that is complete or of a reserved
type drops the message. -/
lemma decodeAllSections_eq (rounds : Nat) :
    decodeAllSections decompressor config (rounds + 2) [] bytes =
      if SectionComplete config bytes then
        match decompressSection decompressor (sectionAt config bytes) with
        | none => .faulted .applicationStopped
        | some decoded =>
          if SectionComplete config (bytesAfterSection config bytes) then
            match decompressSection decompressor
                (sectionAt config (bytesAfterSection config bytes)) with
            | none => .faulted .applicationStopped
            | some _ => .rejected
          else if NamesReserved config (bytesAfterSection config bytes) then .rejected
          else .accepted [decoded]
      else .rejected := by
  rw [decodeAllSections_round]
  split
  · cases decompressSection decompressor (sectionAt config bytes) with
    | none => rfl
    | some decoded => exact decodeAllSections_round decompressor rounds [decoded] _
  · exact ite_self _

lemma decodeAllSections_eq_accepted_iff {rounds : Nat}
    {sections : List (UplaneSectionParams Sample)} :
    decodeAllSections decompressor config (rounds + 2) [] bytes = .accepted sections ↔
      SectionComplete config bytes ∧ ¬SectionComplete config (bytesAfterSection config bytes) ∧
        ¬NamesReserved config (bytesAfterSection config bytes) ∧
        ∃ decoded, decompressSection decompressor (sectionAt config bytes) = some decoded ∧
          sections = [decoded] := by
  rw [decodeAllSections_eq]
  constructor
  · intro hacc
    split_ifs at hacc with hcompl hsecond hnames
    · split at hacc
      · contradiction
      · split at hacc <;> contradiction
    · split at hacc <;> contradiction
    · split at hacc
      · contradiction
      · rename_i decoded hdec
        rw [accepted.injEq] at hacc
        exact ⟨hcompl, hsecond, hnames, decoded, hdec, hacc.symm⟩
  · rintro ⟨hcompl, hsecond, hnames, decoded, hdec, rfl⟩
    simp [if_pos hcompl, hdec, if_neg hsecond, if_neg hnames]

lemma decodeAllSections_eq_stopped_iff {rounds : Nat} :
    decodeAllSections decompressor config (rounds + 2) [] bytes = .faulted .applicationStopped ↔
      ∃ decoded ∈ completeSections config resultsMaxNofSupportedSections bytes,
        decompressSection decompressor decoded = none := by
  simp only [mem_completeSections_iff]
  rw [decodeAllSections_eq]
  constructor
  · intro hstop
    by_cases hfirst : SectionComplete config bytes
    · cases hdec : decompressSection decompressor (sectionAt config bytes) with
      | none => exact ⟨_, ⟨hfirst, .inl rfl⟩, hdec⟩
      | some decoded =>
        simp only [if_pos hfirst, hdec] at hstop
        split_ifs at hstop with hsecond
        split at hstop
        · rename_i hnone
          exact ⟨_, ⟨hfirst, .inr ⟨hsecond, rfl⟩⟩, hnone⟩
        · contradiction
    · rw [if_neg hfirst] at hstop
      contradiction
  · rintro ⟨_, ⟨hfirst, rfl | ⟨hsecond, rfl⟩⟩, hnone⟩
    · rw [if_pos hfirst, hnone]
    · simp only [if_pos hfirst, if_pos hsecond, hnone]
      split <;> rfl

end

/-- A decoder for a carrier: its bandwidth has a PRB at least and at most those of the widest
carrier. -/
structure CarrierDecoderConfig extends UplaneDecoderConfig where
  ruNofPrbs_pos : 0 < ruNofPrbs
  ruNofPrbs_le : ruNofPrbs ≤ maxNofPrbs

instance : Coe CarrierDecoderConfig UplaneDecoderConfig :=
  ⟨CarrierDecoderConfig.toUplaneDecoderConfig⟩

lemma CarrierDecoderConfig.sectionNofPrbs_pos (config : CarrierDecoderConfig)
    (bytes : Bytes) : 0 < sectionNofPrbs config bytes := by
  rw [sectionNofPrbs]
  split
  · exact config.ruNofPrbs_pos
  · omega

section

variable {Sample : Type} [Inhabited Sample] (decompressor : IqDecompressor Sample)
  {config : UplaneDecoderConfig} {message : Bytes}

lemma decode_of_not_wellFormed (hhdr : ¬HeaderWellFormed config message) (rounds : Nat) :
    decode decompressor config rounds message = .rejected := by
  obtain ⟨failure, hfailed⟩ := decodeHeader_failed config hhdr
  rw [decode, hfailed]

lemma decode_of_wellFormed (hhdr : HeaderWellFormed config message) (rounds : Nat) :
    decode decompressor config rounds message =
      (decodeAllSections decompressor config rounds [] (message.drop nofBytesUpHeader)).map
        (UplaneMessageDecoderResults.mk (headerAt config message)) := by
  rw [decode, decodeHeader_eq_orDropped config hhdr.complete, decodeHeader_eq, if_pos hhdr]
  rfl

lemma decode_ne_unfinished (rounds : Nat) :
    decode decompressor config (rounds + 2) message ≠ .unfinished := by
  by_cases hhdr : HeaderWellFormed config message
  · rw [decode_of_wellFormed decompressor hhdr, ne_eq, map_eq_unfinished_iff]
    apply decodeAllSections_ne_unfinished
    · exact Nat.zero_lt_two
    · exact Nat.le_add_left _ _
  · rw [decode_of_not_wellFormed decompressor hhdr]
    simp

lemma decode_ne_outsideMessage (rounds : Nat) :
    decode decompressor config rounds message ≠ .faulted .outsideMessage := by
  by_cases hhdr : HeaderWellFormed config message
  · rw [decode_of_wellFormed decompressor hhdr, ne_eq, map_eq_faulted_iff]
    exact decodeAllSections_ne_outsideMessage decompressor config rounds [] _
  · rw [decode_of_not_wellFormed decompressor hhdr]
    simp

lemma decode_eq_accepted_iff {rounds : Nat} {results : UplaneMessageDecoderResults Sample} :
    decode decompressor config (rounds + 2) message = .accepted results ↔
      HeaderWellFormed config message ∧ SectionComplete config (message.drop nofBytesUpHeader) ∧
        ¬SectionComplete config (bytesAfterSection config (message.drop nofBytesUpHeader)) ∧
        ¬NamesReserved config (bytesAfterSection config (message.drop nofBytesUpHeader)) ∧
        ∃ decoded, decompressSection decompressor
            (sectionAt config (message.drop nofBytesUpHeader)) = some decoded ∧
          results = ⟨headerAt config message, [decoded]⟩ := by
  by_cases hhdr : HeaderWellFormed config message
  · rw [decode_of_wellFormed decompressor hhdr, map_eq_accepted_iff]
    simp only [decodeAllSections_eq_accepted_iff, hhdr, true_and]
    constructor
    · rintro ⟨_, ⟨hfirst, hsecond, hnames, decoded, hdec, rfl⟩, rfl⟩
      exact ⟨hfirst, hsecond, hnames, decoded, hdec, rfl⟩
    · rintro ⟨hfirst, hsecond, hnames, decoded, hdec, rfl⟩
      exact ⟨_, ⟨hfirst, hsecond, hnames, decoded, hdec, rfl⟩, rfl⟩
  · rw [decode_of_not_wellFormed decompressor hhdr]
    simp [hhdr]

lemma hasSection_first (hhdr : HeaderWellFormed config message)
    (hcompl : SectionComplete config (message.drop nofBytesUpHeader)) :
    HasSection config message (sectionAt config (message.drop nofBytesUpHeader)) :=
  ⟨hhdr, mem_completeSections_iff.mpr ⟨hcompl, .inl rfl⟩⟩

/-- The decoder stops exactly when the decompressor does so on a complete section of the message.
-/
lemma decode_eq_stopped_iff {rounds : Nat} :
    decode decompressor config (rounds + 2) message = .faulted .applicationStopped ↔
      ∃ decoded, HasSection config message decoded ∧
        decompressSection decompressor decoded = none := by
  by_cases hhdr : HeaderWellFormed config message
  · rw [decode_of_wellFormed decompressor hhdr, map_eq_faulted_iff,
      decodeAllSections_eq_stopped_iff]
    simp [HasSection, hhdr]
  · rw [decode_of_not_wellFormed decompressor hhdr]
    simp [HasSection, hhdr]

/-- A call ends, reads nothing outside the message and, if the decompressor returns, accepts
exactly the messages with a well-formed header and one complete section that no complete or
reserved section follows. -/
theorem decode_acceptance (decompressor : IqDecompressor Sample) (config : CarrierDecoderConfig)
    (message : Bytes) (rounds : Nat) :
    decode decompressor config (rounds + 2) message ≠ .unfinished ∧
    decode decompressor config (rounds + 2) message ≠ .faulted .outsideMessage ∧
    ((∀ decoded, HasSection config message decoded →
        (decompressSection decompressor decoded).isSome) →
      ((∃ results, decode decompressor config (rounds + 2) message = .accepted results) ↔
        HeaderWellFormed config message ∧
        SectionComplete config (message.drop nofBytesUpHeader) ∧
        ¬SectionComplete config (bytesAfterSection config (message.drop nofBytesUpHeader)) ∧
        ¬NamesReserved config (bytesAfterSection config (message.drop nofBytesUpHeader)))) ∧
    ∀ results, decode decompressor config (rounds + 2) message = .accepted results →
      ∃ iqSamples, results.sections =
          [fillResults (sectionAt config (message.drop nofBytesUpHeader)) iqSamples] ∧
        1 ≤ sectionNofPrbs config (message.drop nofBytesUpHeader) ∧
        iqSamples.length =
          sectionNofPrbs config (message.drop nofBytesUpHeader) * nofSubcarriersPerRb := by
  refine ⟨decode_ne_unfinished decompressor rounds, decode_ne_outsideMessage decompressor _, ?_, ?_⟩
  · intro hreturns
    simp only [decode_eq_accepted_iff]
    constructor
    · rintro ⟨_, hheader, hfirst, hsecond, hnames, -⟩
      exact ⟨hheader, hfirst, hsecond, hnames⟩
    · rintro ⟨hheader, hfirst, hsecond, hnames⟩
      obtain ⟨decoded, hdecoded⟩ := Option.isSome_iff_exists.mp
        (hreturns _ (hasSection_first hheader hfirst))
      exact ⟨_, hheader, hfirst, hsecond, hnames, decoded, hdecoded, rfl⟩
  · intro results haccepted
    obtain ⟨-, -, -, -, decoded, hdecoded, rfl⟩ :=
      (decode_eq_accepted_iff decompressor).mp haccepted
    obtain ⟨iqSamples, hsamps, rfl⟩ := Option.map_eq_some_iff.mp hdecoded
    refine ⟨iqSamples, rfl, config.sectionNofPrbs_pos _, ?_⟩
    rw [decompressSamples] at hsamps
    split at hsamps
    · contradiction
    · rw [decompressor.length_decompress hsamps, List.length_replicate]
      rfl

end

section

def dynamicConfig : CarrierDecoderConfig where
  scs := .kHz30
  nofSymbols := 14
  ruNofPrbs := 51
  comprHeader := .dynamicHeader
  expectedDirection := .downlink
  ruNofPrbs_pos := by decide
  ruNofPrbs_le := by decide

def onePrbMessage : Bytes := [0x90, 0, 0, 0, 0, 0, 0, 1, 0x10, 0, 0, 0, 0]

def plainDecompressor : IqDecompressor (Int × Int) := iqCompressionNone fun value _ => value

theorem onePrbMessage_accepted :
    ∃ results, decode plainDecompressor dynamicConfig 2 onePrbMessage = .accepted results := by
  apply ((decode_acceptance plainDecompressor dynamicConfig onePrbMessage 0).2.2.1 ?_).mpr
  · exact ⟨by decide, by decide, by decide, by decide⟩
  rintro decoded ⟨-, hdecoded⟩
  have hsections : completeSections dynamicConfig resultsMaxNofSupportedSections
      (onePrbMessage.drop nofBytesUpHeader) =
      [sectionAt dynamicConfig (onePrbMessage.drop nofBytesUpHeader)] := by decide
  rw [hsections, List.mem_singleton] at hdecoded
  subst hdecoded
  decide

def reservedTrailer : Bytes := [0, 0, 0, 1, 0x17, 0]

theorem reservedTrailer_rejected :
    HeaderWellFormed dynamicConfig (onePrbMessage ++ reservedTrailer) ∧
    SectionComplete dynamicConfig ((onePrbMessage ++ reservedTrailer).drop nofBytesUpHeader) ∧
    ¬SectionComplete dynamicConfig (bytesAfterSection dynamicConfig
      ((onePrbMessage ++ reservedTrailer).drop nofBytesUpHeader)) ∧
    decode plainDecompressor dynamicConfig 2 (onePrbMessage ++ reservedTrailer) = .rejected :=
  ⟨by decide, by decide, by decide, by decide⟩

end

end ProtoRu.UplaneIq
