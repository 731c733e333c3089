import ProtoRu.UplaneFragmentation

namespace ProtoRu.Uplane

open List

/-- Ranges that cover `[start, stop)` one after the other. -/
def Tiles (stop : Nat) : Nat → List (Nat × Nat) → Prop
  | start, [] => start = stop
  | start, range :: rest => range.1 = start ∧ 0 < range.2 ∧ Tiles stop (start + range.2) rest

lemma Tiles.exists_mem {stop start : Nat} {ranges : List (Nat × Nat)}
    (htiles : Tiles stop start ranges) {prb : Nat} (hge : start ≤ prb) (hlt : prb < stop) :
    ∃ range ∈ ranges, range.1 ≤ prb ∧ prb < range.1 + range.2 := by
  induction ranges generalizing start with
  | nil =>
    obtain rfl : start = stop := htiles
    omega
  | cons range rest ih =>
    obtain ⟨rfl, -, hrest⟩ := htiles
    obtain hinside | hafter := lt_or_ge prb (range.1 + range.2)
    · exact ⟨range, mem_cons_self, hge, hinside⟩
    · obtain ⟨other, hother, hprb⟩ := ih hrest hafter
      exact ⟨other, mem_cons_of_mem _ hother, hprb⟩

variable {free startPrb : Nat}

section

variable {Prb : Type} (compressor : IqCompressor Prb) (config : DataFlowUplaneConfig)
  (context : DataFlowUplaneContext config) (iqData : List Prb)

def compressedPrbs (range : Nat × Nat) : Bytes :=
  compressor.compressed ((iqData.drop range.1).take range.2) config.comprParams

def expectedResults (range : Nat × Nat) : UplaneMessageDecoderResults where
  params := ⟨config.direction, wireSlot context.slot, .standardChannelFilter, context.symbolId⟩
  sections := [{
    sectionId := context.sectionId
    isEveryRbUsed := true
    useCurrentSymbolNumber := true
    startPrb := range.1
    nofPrbs := range.2
    udCompHdr := config.comprParams
    udCompLen := none
    compressedData := compressedPrbs compressor config iqData range }]

/-- The messages of a symbol are read as built, and their PRB ranges cover the carrier in order.
-/
def SymbolRoundTrips (free : Nat) : Prop :=
  ∃ messages ranges,
    enqueueSectionType1MessageSymbol compressor config context iqData free = some messages ∧
      messages.map (decode config.receiver) =
        ranges.map (fun range => some (expectedResults compressor config context iqData range)) ∧
      Tiles config.ruNofPrbs 0 ranges

def calculatorAt (startPrb : Nat) : OfhUplaneFragmentSizeCalculator :=
  ⟨0, config.ruNofPrbs, getPrbDataSize config.comprParams, startPrb⟩

lemma calculateFragmentSize_calculatorAt (startPrb : Nat) :
    (calculatorAt config startPrb).calculateFragmentSize config.frameSize =
      if config.ruNofPrbs - startPrb ≤ config.nofPrbsFitInFrame then
        (⟨startPrb, config.ruNofPrbs - startPrb, true⟩,
          calculatorAt config (startPrb + (config.ruNofPrbs - startPrb)))
      else (⟨startPrb, config.nofPrbsFitInFrame, false⟩,
        calculatorAt config (startPrb + config.nofPrbsFitInFrame)) := by
  have hfit : ¬ config.frameSize < getPrbDataSize config.comprParams := by
    intro hlt
    have hpos := config.nofPrbsFitInFrame_pos
    rw [DataFlowUplaneConfig.nofPrbsFitInFrame, Nat.div_eq_of_lt hlt] at hpos
    exact absurd hpos (lt_irrefl 0)
  unfold OfhUplaneFragmentSizeCalculator.calculateFragmentSize calculatorAt
  rw [if_neg hfit, Nat.sub_zero]
  rfl

structure ValidFragment (fragment : Fragment) : Prop where
  nofPrbs_pos : 0 < fragment.nofPrbs
  stop_le : fragment.startPrb + fragment.nofPrbs ≤ config.ruNofPrbs

section

variable {compressor config iqData} {fragment : Fragment}
  (hfragment : ValidFragment config fragment)
  (himplemented : isImplemented config.comprParams.type)

lemma compresses_fragment (hcompresses : compressor.Compresses iqData config.comprParams) :
    compressor.Compresses ((iqData.drop fragment.startPrb).take fragment.nofPrbs)
      config.comprParams :=
  fun prb hprb => hcompresses prb (mem_of_mem_drop (mem_of_mem_take hprb))

include hfragment in
lemma length_compressedPrbs (hcompresses : compressor.Compresses iqData config.comprParams)
    (hiqData : iqData.length = config.ruNofPrbs) :
    (compressedPrbs compressor config iqData (fragment.startPrb, fragment.nofPrbs)).length =
      fragment.nofPrbs * getCompressedPrbSize config.comprParams := by
  have hstop := hfragment.stop_le
  simp only [compressedPrbs]
  rw [IqCompressor.length_compressed (compresses_fragment hcompresses), length_take, length_drop,
    hiqData, Nat.min_eq_left (by omega)]

include himplemented

lemma fragmentMessage_eq (hcompresses : compressor.Compresses iqData config.comprParams) :
    fragmentMessage compressor config context iqData fragment =
      some (buildRadioAppHeader (generateOfhUserParameters config context fragment) ++
        buildSection1Header (generateOfhUserParameters config context fragment) ++
        serializeCompressionHeader config.comprHeader config.comprParams ++
        compressedPrbs compressor config iqData (fragment.startPrb, fragment.nofPrbs)) := by
  have hcomp : compressor.compress ((iqData.drop fragment.startPrb).take fragment.nofPrbs)
      (generateOfhUserParameters config context fragment).compressionParams =
        some (compressedPrbs compressor config iqData (fragment.startPrb, fragment.nofPrbs)) :=
    IqCompressor.compress_eq_some himplemented (compresses_fragment hcompresses)
  simp only [fragmentMessage, buildMessage]
  rw [hcomp]
  rfl

include hfragment

lemma matching_fragment : Matching config.comprHeader config.receiver
      (generateOfhUserParameters config context fragment) where
  numerology_eq := context.numerology_eq
  symbolId_lt := context.symbolId_lt
  nofSymbols_le := getNsymbPerSlot_le_max config.cp
  direction_eq := rfl
  filterIndex_ne := by simp [generateOfhUserParameters]
  sectionId_lt := context.sectionId_lt
  startPrb_lt := by
    have hstop := hfragment.stop_le
    have hle := config.ruNofPrbs_le
    change fragment.startPrb < 2 ^ 10
    omega
  comprHeader_eq := rfl
  implemented := himplemented
  dataWidth_pos := config.dataWidth_pos
  dataWidth_le := config.dataWidth_le
  nofPrb_pos := hfragment.nofPrbs_pos

lemma decode_fragment (hcompresses : compressor.Compresses iqData config.comprParams)
    (hiqData : iqData.length = config.ruNofPrbs)
    (hrange : fragment.nofPrbs ≤ 255 ∨ fragment.nofPrbs = config.ruNofPrbs) :
    ∃ message, fragmentMessage compressor config context iqData fragment = some message ∧
      decode config.receiver message = some (expectedResults compressor config context iqData
          (fragment.startPrb, fragment.nofPrbs)) := by
  have hmatch := matching_fragment context hfragment himplemented
  have hstop := hfragment.stop_le
  have hnof : decodedNofPrbs config.receiver.ruNofPrbs
      (generateOfhUserParameters config context fragment) = fragment.nofPrbs := by
    change (if fragment.nofPrbs > 255 then config.ruNofPrbs else fragment.nofPrbs) = _
    split <;> omega
  have hstart : decodedStartPrb (generateOfhUserParameters config context fragment) =
      fragment.startPrb := by
    change (if fragment.nofPrbs > 255 then 0 else fragment.startPrb) = _
    split <;> omega
  refine ⟨_, fragmentMessage_eq context himplemented hcompresses, ?_⟩
  have hdecode := decode_build_eq_some hmatch
    (length_compressedPrbs hfragment hcompresses hiqData) hnof
  simp only [decodedSection] at hdecode
  rw [hstart, hnof] at hdecode
  exact hdecode

end

lemma enqueueFragments_last (hstart : startPrb < config.ruNofPrbs)
    (hlast : config.ruNofPrbs - startPrb ≤ config.nofPrbsFitInFrame) :
    enqueueFragments compressor config context iqData (free + 1) (calculatorAt config startPrb) =
      (fragmentMessage compressor config context iqData
        ⟨startPrb, config.ruNofPrbs - startPrb, true⟩).map fun message => [message] := by
  simp only [enqueueFragments, fragmentLoop]
  rw [calculateFragmentSize_calculatorAt, if_pos hlast, Option.map_eq_bind]
  dsimp only
  rw [if_neg (by omega)]
  rfl

lemma enqueueFragments_more (hmore : config.nofPrbsFitInFrame < config.ruNofPrbs - startPrb) :
    enqueueFragments compressor config context iqData (free + 1) (calculatorAt config startPrb) =
      (fragmentMessage compressor config context iqData
        ⟨startPrb, config.nofPrbsFitInFrame, false⟩).bind fun message =>
        (enqueueFragments compressor config context iqData free
          (calculatorAt config (startPrb + config.nofPrbsFitInFrame))).bind fun rest =>
            some (message :: rest) := by
  conv_lhs => unfold enqueueFragments fragmentLoop
  rw [calculateFragmentSize_calculatorAt, if_neg (not_le.mpr hmore)]
  dsimp only
  rw [if_neg config.nofPrbsFitInFrame_pos.ne']
  rfl

lemma enqueueFragments_roundTrips (himplemented : isImplemented config.comprParams.type)
    (hcompresses : compressor.Compresses iqData config.comprParams)
    (hiqData : iqData.length = config.ruNofPrbs) (free startPrb : Nat)
    (hstart : startPrb < config.ruNofPrbs)
    (hfree : config.ruNofPrbs - startPrb ≤ free * config.nofPrbsFitInFrame)
    (hrange : config.nofPrbsFitInFrame ≤ 255 ∨
      startPrb = 0 ∧ config.ruNofPrbs ≤ config.nofPrbsFitInFrame) : ∃ messages ranges,
      enqueueFragments compressor config context iqData free (calculatorAt config startPrb) =
          some messages ∧ messages.map (decode config.receiver) = ranges.map (fun range =>
          some (expectedResults compressor config context iqData range)) ∧
        Tiles config.ruNofPrbs startPrb ranges := by
  induction free generalizing startPrb with
  | zero => omega
  | succ free ih =>
    have hpos := config.nofPrbsFitInFrame_pos
    obtain hlast | hmore := le_or_gt (config.ruNofPrbs - startPrb) config.nofPrbsFitInFrame
    · have hfragment : ValidFragment config
          ⟨startPrb, config.ruNofPrbs - startPrb, true⟩ := ⟨by dsimp only; omega, by
            dsimp only; omega⟩
      obtain ⟨message, hbuild, hdecode⟩ := decode_fragment context hfragment himplemented
        hcompresses hiqData (by dsimp only; omega)
      refine ⟨[message], [(startPrb, config.ruNofPrbs - startPrb)], ?_, ?_, ?_⟩
      · rw [enqueueFragments_last compressor config context iqData hstart hlast, hbuild]
        rfl
      · rw [map_singleton, map_singleton, hdecode]
      · refine ⟨rfl, hfragment.nofPrbs_pos, ?_⟩
        change startPrb + (config.ruNofPrbs - startPrb) = config.ruNofPrbs
        omega
    · have hfragment : ValidFragment config ⟨startPrb, config.nofPrbsFitInFrame, false⟩ :=
        ⟨hpos, by dsimp only; omega⟩
      obtain ⟨message, hbuild, hdecode⟩ := decode_fragment context hfragment himplemented
        hcompresses hiqData (by dsimp only; omega)
      have hrest : config.ruNofPrbs - (startPrb + config.nofPrbsFitInFrame) ≤
          free * config.nofPrbsFitInFrame := by
        rw [Nat.add_mul] at hfree
        omega
      obtain ⟨messages, ranges, henq, hmap, htiles⟩ :=
        ih (startPrb + config.nofPrbsFitInFrame) (by omega) hrest (by omega)
      refine ⟨message :: messages, (startPrb, config.nofPrbsFitInFrame) :: ranges, ?_, ?_, ?_⟩
      · rw [enqueueFragments_more compressor config context iqData hmore, hbuild, henq]
        rfl
      · rw [map_cons, map_cons, hdecode, hmap]
      · exact ⟨rfl, hpos, htiles⟩

lemma ruNofPrbs_le_nofSegments_mul :
    config.ruNofPrbs ≤ config.nofSegments * config.nofPrbsFitInFrame := by
  have hpos := config.nofPrbsFitInFrame_pos
  have hdiv := Nat.div_add_mod (config.ruNofPrbs + config.nofPrbsFitInFrame - 1)
    config.nofPrbsFitInFrame
  have hmod := Nat.mod_lt (config.ruNofPrbs + config.nofPrbsFitInFrame - 1) hpos
  have hsegments : config.nofSegments =
      (config.ruNofPrbs + config.nofPrbsFitInFrame - 1) / config.nofPrbsFitInFrame := rfl
  rw [hsegments, Nat.mul_comm]
  omega

/-- Implemented types are read as built when a frame holds at most 255 PRBs or the whole carrier.
-/
theorem symbolRoundTrips_of_implemented (himplemented : isImplemented config.comprParams.type)
    (hwidth : 8 ≤ config.comprParams.dataWidth ∨ compressor.Compresses iqData config.comprParams)
    (hiqData : iqData.length = config.ruNofPrbs) {free : Nat} (hfree : config.nofSegments ≤ free)
    (hrange : config.nofPrbsFitInFrame ≤ 255 ∨ config.ruNofPrbs ≤ config.nofPrbsFitInFrame) :
    SymbolRoundTrips compressor config context iqData free := by
  have hcompresses := hwidth.elim IqCompressor.compresses_of_dataWidth id
  apply enqueueFragments_roundTrips compressor config context iqData himplemented hcompresses
    hiqData free 0 config.ruNofPrbs_pos
  · calc config.ruNofPrbs - 0 ≤ config.nofSegments * config.nofPrbsFitInFrame :=
          ruNofPrbs_le_nofSegments_mul config
      _ ≤ free * config.nofPrbsFitInFrame := Nat.mul_le_mul_right _ hfree
  · obtain hfit | hfit := hrange
    · exact Or.inl hfit
    · exact Or.inr ⟨rfl, hfit⟩

lemma SymbolRoundTrips.exists_cons {free : Nat}
    (hround : SymbolRoundTrips compressor config context iqData free) : ∃ free message rest results,
      enqueueFragments compressor config context iqData (free + 1) (calculatorAt config 0) =
        some (message :: rest) ∧ decode config.receiver message = some results := by
  obtain ⟨messages, ranges, henq, hmap, htiles⟩ := hround
  cases ranges with
  | nil => exact absurd htiles config.ruNofPrbs_pos.ne
  | cons range ranges =>
    cases messages with
    | nil => simp at hmap
    | cons message rest =>
      cases free with
      | zero => simp [enqueueSectionType1MessageSymbol, enqueueFragments, fragmentLoop] at henq
      | succ free => exact ⟨free, message, rest, _, henq, (cons.inj hmap).1⟩

lemma not_symbolRoundTrips_of_not_implemented
    (himplemented : isImplemented config.comprParams.type = false) (free : Nat) :
    ¬ SymbolRoundTrips compressor config context iqData free := by
  intro hround
  obtain ⟨free, message, rest, results, henq, -⟩ := hround.exists_cons
  have hbuild (fragment : Fragment) :
      fragmentMessage compressor config context iqData fragment = none := by
    have hcomp (prbs : List Prb) : compressor.compress prbs
        (generateOfhUserParameters config context fragment).compressionParams = none :=
      if_neg (Bool.eq_false_iff.mp himplemented)
    simp only [fragmentMessage, buildMessage]
    rw [hcomp]
    rfl
  obtain hlast | hmore := le_or_gt (config.ruNofPrbs - 0) config.nofPrbsFitInFrame
  · rw [enqueueFragments_last compressor config context iqData config.ruNofPrbs_pos hlast,
      hbuild] at henq
    simp at henq
  · rw [enqueueFragments_more compressor config context iqData hmore, hbuild] at henq
    simp at henq

lemma not_symbolRoundTrips_of_wide_fragment (himplemented : isImplemented config.comprParams.type)
    (hcompresses : compressor.Compresses iqData config.comprParams)
    (hiqData : iqData.length = config.ruNofPrbs) (hmany : 255 < config.nofPrbsFitInFrame)
    (hpart : config.nofPrbsFitInFrame < config.ruNofPrbs) (free : Nat) :
    ¬ SymbolRoundTrips compressor config context iqData free := by
  intro hround
  obtain ⟨free, message, rest, results, henq, hdecode⟩ := hround.exists_cons
  have hfragment : ValidFragment config ⟨0, config.nofPrbsFitInFrame, false⟩ :=
    ⟨config.nofPrbsFitInFrame_pos, by dsimp only; omega⟩
  have hrejected := decode_build_eq_none (matching_fragment context hfragment himplemented)
    (length_compressedPrbs hfragment hcompresses hiqData) hmany hpart
  rw [enqueueFragments_more compressor config context iqData hpart,
    fragmentMessage_eq context himplemented hcompresses, Option.bind_some] at henq
  obtain ⟨others, -, hcons⟩ := Option.bind_eq_some_iff.mp henq
  obtain ⟨rfl, -⟩ := cons.inj (Option.some.inj hcons)
  cases hrejected.symm.trans hdecode

end

def carrier100MHz (type : CompressionType) (mtu : Nat) (hge : 1500 ≤ mtu) (hle : mtu ≤ 9600) :
    DataFlowUplaneConfig where
  scs := .kHz30
  cp := .normal
  ruNofPrbs := 273
  comprParams := ⟨type, 9⟩
  comprHeader := .staticHeader
  direction := .uplink
  vlanTagged := false
  mtu := mtu
  ruNofPrbs_pos := by decide
  ruNofPrbs_le := by decide
  dataWidth_pos := show 0 < 9 by decide
  dataWidth_le := show 9 ≤ 16 by decide
  mtu_ge := hge
  mtu_le := hle

def firstSymbol (type : CompressionType) (mtu : Nat) (hge : 1500 ≤ mtu) (hle : mtu ≤ 9600) :
    DataFlowUplaneContext (carrier100MHz type mtu hge hle) where
  slot := ⟨1, 0⟩
  symbolId := 0
  sectionId := 1
  numerology_eq := rfl
  symbolId_lt := show 0 < 14 by decide
  sectionId_lt := by decide

def silence : IqCompressor Unit where
  compressPrb := fun params _ => some (replicate (getCompressedPrbSize params) 0)
  length_compressPrb := by simp
  isSome_compressPrb := fun _ _ _ => rfl

theorem carrier100MHz_bfp_9000_roundTrips :
    SymbolRoundTrips silence (carrier100MHz .bfp 9000 (by decide) (by decide))
      (firstSymbol .bfp 9000 (by decide) (by decide)) (replicate 273 ()) 1 :=
  symbolRoundTrips_of_implemented silence (carrier100MHz .bfp 9000 (by decide) (by decide))
    (firstSymbol .bfp 9000 (by decide) (by decide)) (replicate 273 ()) rfl
    (.inl (by decide)) length_replicate (by decide) (by decide)

/-- A mu-law symbol stops the application; with an MTU of 7500 bytes a message of 266 PRBs is
rejected. -/
theorem carrier100MHz_not_roundTrips :
    (¬ SymbolRoundTrips silence (carrier100MHz .muLaw 9000 (by decide) (by decide))
      (firstSymbol .muLaw 9000 (by decide) (by decide)) (replicate 273 ()) 32) ∧
      ¬ SymbolRoundTrips silence (carrier100MHz .bfp 7500 (by decide) (by decide))
        (firstSymbol .bfp 7500 (by decide) (by decide)) (replicate 273 ()) 32 :=
  ⟨not_symbolRoundTrips_of_not_implemented silence _ _ _ rfl 32,
    not_symbolRoundTrips_of_wide_fragment silence _ _ _ rfl (fun _ _ => rfl) length_replicate
      (by decide) (by decide) 32⟩

end ProtoRu.Uplane
