import ProtoRu.UplaneSymbolRoundTrip

namespace ProtoRu.Uplane

variable {Prb : Type} (compressor : IqCompressor Prb) {params : RuCompressionParams}

/-- What the loop sends of a symbol with frame buffers of any size. -/
def sentFragments (params : RuCompressionParams) (iqData : List Prb) (frameSize free : Nat) :
    Option (List (Fragment × Bytes)) :=
  fragmentLoop (fun fragment => (compressor.compress
      ((iqData.drop fragment.startPrb).take fragment.nofPrbs) params).map (fragment, ·))
    frameSize free (.new 0 iqData.length params)

lemma getPrbDataSize_eq (himpl : isImplemented params.type) :
    getPrbDataSize params = getCompressedPrbSize params := by
  obtain ⟨type, dataWidth⟩ := params
  simp only [getPrbDataSize, getCompressedPrbSize, roundUpToBytes, nofSubcarriersPerRb]
  cases type <;> simp [isImplemented, isCompressionParamPresent] at himpl ⊢ <;> omega

lemma fragmentLoop_spec {α : Type} {write : Fragment → Option α}
    {frameSize prbSize nofPrbs : Nat} (hpos : 0 < prbSize) (hfits : prbSize ≤ frameSize)
    (hwrite : ∀ fragment : Fragment, fragment.startPrb + fragment.nofPrbs ≤ nofPrbs →
      (write fragment).isSome) (free start : Nat) (hstart : start ≤ nofPrbs) :
    ∃ frames, fragmentLoop write frameSize free ⟨0, nofPrbs, prbSize, start⟩ = some frames ∧
      frames.length =
        min free ((nofPrbs - start + frameSize / prbSize - 1) / (frameSize / prbSize)) ∧
      ∀ frame ∈ frames, ∃ fragment, write fragment = some frame ∧ 0 < fragment.nofPrbs ∧
        fragment.startPrb + fragment.nofPrbs ≤ nofPrbs ∧
        fragment.nofPrbs * prbSize ≤ frameSize := by
  have hfit : 0 < frameSize / prbSize := Nat.div_pos hfits hpos
  have hmul := Nat.div_mul_le_self frameSize prbSize
  induction free generalizing start with
  | zero => exact ⟨[], rfl, by simp, by simp⟩
  | succ free ih =>
    simp only [fragmentLoop, OfhUplaneFragmentSizeCalculator.calculateFragmentSize,
      if_neg (not_lt.mpr hfits), Nat.sub_zero]
    by_cases hlast : nofPrbs - start ≤ frameSize / prbSize
    · simp only [ge_iff_le, if_pos hlast, if_true]
      by_cases hnone : nofPrbs - start = 0
      · refine ⟨[], if_pos hnone, ?_, by simp⟩
        rw [Nat.div_eq_of_lt (by omega), Nat.min_zero, List.length_nil]
      obtain ⟨frame, hframe⟩ := Option.isSome_iff_exists.mp
        (hwrite ⟨start, nofPrbs - start, true⟩ (by dsimp only; omega))
      refine ⟨[frame], by rw [if_neg hnone, hframe]; rfl, ?_, ?_⟩
      · rw [Nat.div_eq_of_lt_le (k := 1) (by omega) (by omega), List.length_singleton]
        omega
      · rw [List.forall_mem_singleton]
        exact ⟨_, hframe, Nat.pos_of_ne_zero hnone, by dsimp only; omega,
          (Nat.mul_le_mul_right _ hlast).trans hmul⟩
    · obtain ⟨frames, hrest, hlen, hall⟩ := ih (start + frameSize / prbSize) (by omega)
      obtain ⟨frame, hframe⟩ := Option.isSome_iff_exists.mp
        (hwrite ⟨start, frameSize / prbSize, false⟩ (by dsimp only; omega))
      simp only [ge_iff_le, if_neg hlast, if_neg hfit.ne', hframe, hrest]
      refine ⟨frame :: frames, rfl, ?_, List.forall_mem_cons.mpr
        ⟨⟨_, hframe, hfit, by dsimp only; omega, hmul⟩, hall⟩⟩
      have hround : nofPrbs - start + frameSize / prbSize - 1 =
          nofPrbs - (start + frameSize / prbSize) + frameSize / prbSize - 1 +
            frameSize / prbSize := by omega
      rw [List.length_cons, hround, Nat.add_div_right _ hfit]
      omega

/-- A symbol takes the segments the pool is dimensioned for, and each frame carries a PRB and fits
its buffer. -/
theorem fragmentLoop_terminates (himpl : isImplemented params.type) (hpos : 0 < params.dataWidth)
    {iqData : List Prb} (hwidth : 8 ≤ params.dataWidth ∨ compressor.Compresses iqData params)
    {bufferSize headersSize : Nat}
    (hbuffer : headersSize + getCompressedPrbSize params ≤ bufferSize) (free : Nat) :
    ∃ frames, sentFragments compressor params iqData (bufferSize - headersSize) free =
        some frames ∧
      frames.length =
        min free (calculateNofSegments bufferSize iqData.length params headersSize) ∧
      ∀ frame ∈ frames, 0 < frame.1.nofPrbs ∧
        frame.2.length = frame.1.nofPrbs * getCompressedPrbSize params ∧
        headersSize + frame.2.length ≤ bufferSize := by
  have hsize := getPrbDataSize_eq himpl
  have hcompresses (fragment : Fragment) : compressor.Compresses
      ((iqData.drop fragment.startPrb).take fragment.nofPrbs) params := fun prb hprb =>
    hwidth.elim IqCompressor.compresses_of_dataWidth id prb
      (List.mem_of_mem_drop (List.mem_of_mem_take hprb))
  have hsizePos : 0 < getPrbDataSize params := by
    simp only [getPrbDataSize, roundUpToBytes, nofSubcarriersPerRb]
    split <;> omega
  obtain ⟨frames, hsent, hlength, hall⟩ := @fragmentLoop_spec _ (fun fragment =>
    (compressor.compress ((iqData.drop fragment.startPrb).take fragment.nofPrbs) params).map
      fun data => (fragment, data)) (bufferSize - headersSize) _ iqData.length hsizePos
    (by omega) (fun fragment _ => by
      rw [IqCompressor.compress_eq_some himpl (hcompresses fragment)]
      rfl) free 0 (Nat.zero_le _)
  refine ⟨frames, hsent, hlength, fun frame hframe => ?_⟩
  obtain ⟨fragment, hwrite, hprbs, hstop, hfits⟩ := hall frame hframe
  rw [IqCompressor.compress_eq_some himpl (hcompresses fragment)] at hwrite
  obtain rfl := Option.some.inj hwrite
  have hdata : (compressor.compressed ((iqData.drop fragment.startPrb).take fragment.nofPrbs)
      params).length = fragment.nofPrbs * getCompressedPrbSize params := by
    rw [IqCompressor.length_compressed (hcompresses fragment), List.length_take, List.length_drop,
      Nat.min_eq_left (by omega)]
  rw [hsize] at hfits
  exact ⟨hprbs, hdata, by rw [hdata]; omega⟩

theorem fragmentLoop_wideCarrier : ∃ frames,
    sentFragments silence ⟨.bfp, 9⟩ (List.replicate 273 ()) (1500 - 34) 7 = some frames ∧
      frames.length = 6 := by
  obtain ⟨frames, hsent, hlength, -⟩ := @fragmentLoop_terminates _ silence ⟨.bfp, 9⟩ rfl
    (by decide) (List.replicate 273 ()) (.inl (by decide)) 1500 34 (by decide) 7
  rw [List.length_replicate] at hlength
  exact ⟨frames, hsent, hlength.trans (by decide)⟩

/-- The calculator counts a parameter byte that block scaling does not have: with room for one PRB
the loop makes no progress. Without a compressor the process ends. -/
theorem fragmentLoop_endless :
    let calculator := OfhUplaneFragmentSizeCalculator.new 0 273 ⟨.blockScaling, 9⟩
    getCompressedPrbSize ⟨.blockScaling, 9⟩ = 27 ∧
      calculator.calculateFragmentSize 27 = (⟨0, 0, false⟩, calculator) ∧
      sentFragments silence ⟨.blockScaling, 9⟩ (List.replicate 273 ()) 27 7 = none ∧
      sentFragments silence ⟨.muLaw, 9⟩ (List.replicate 273 ()) 1466 7 = none :=
  ⟨by decide, by decide, by decide +kernel, by decide +kernel⟩

end ProtoRu.Uplane
