import ProtoRu.UplaneIqDecoding
import ProtoRu.UplaneSectionLayout

namespace ProtoRu.UplaneIq

open Uplane

def continueWith {α β : Type} (next : α → Except SectionStop β) :
    Except SectionFailure (α × Bytes) → Except SectionStop (β × Bytes)
  | .error failure => .error (.failed failure)
  | .ok (a, rest) => (next a).map fun b => (b, rest)

/-- A decoder reads inside the message what the decoder without an outside reads, and goes on with
it. -/
def FollowedBy {α β : Type} (p : CheckedDecoder β) (q : SectionDecoder α)
    (next : α → Except SectionStop β) : Prop :=
  ∀ remaining, p remaining = continueWith next (q remaining)

section

variable {α β γ : Type}

lemma FollowedBy.bind {p : CheckedDecoder α} {q : SectionDecoder α}
    (hp : FollowedBy p q .ok) {f : α → CheckedDecoder γ} {g : α → SectionDecoder β}
    {next : β → Except SectionStop γ} (hf : ∀ a, FollowedBy (f a) (g a) next) :
    FollowedBy (p >>= f) (q >>= g) next := by
  intro remaining
  change (p remaining >>= fun result => f result.1 result.2) =
    continueWith next (q remaining >>= fun result => g result.1 result.2)
  rw [hp remaining]
  cases q remaining with
  | error failure => rfl
  | ok result => exact hf result.1 result.2

end

section

variable (config : UplaneDecoderConfig)

lemma followedBy_decodeSectionHeader : FollowedBy (decodeSectionHeader config)
      (Uplane.decodeSectionHeader config) .ok := by
  intro remaining
  match remaining with
  | [] | [_] | [_, _] | [_, _, _] | _ :: _ :: _ :: _ :: _ => rfl

lemma followedBy_decodeCompressionHeader : FollowedBy (decodeCompressionHeader config)
      (Uplane.decodeCompressionHeader config) .ok := by
  intro remaining
  simp only [decodeCompressionHeader, Uplane.decodeCompressionHeader]
  cases config.comprHeader with
  | staticHeader params => rfl
  | dynamicHeader =>
    match remaining with
    | [] | [_] => rfl
    | value :: reserved :: rest =>
      change (if toCompressionType (value.toNat &&& 0x0f) = .reserved then _
          else _ : CheckedDecoder RuCompressionParams) (reserved :: rest) =
        continueWith .ok ((if toCompressionType (value.toNat &&& 0x0f) = .reserved then _
          else _ : SectionDecoder RuCompressionParams) (reserved :: rest))
      split <;> rfl

lemma followedBy_decodeCompressionLength (type : CompressionType) :
    FollowedBy (decodeCompressionLength type)
      (Uplane.decodeCompressionLength type) .ok := by
  intro remaining
  match remaining with
  | [] | [_] | _ :: _ :: rest => cases type <;> rfl

def orDropped {α : Type} : Option α → Except SectionStop α
  | none => .error (.failed .malformed)
  | some a => .ok a

lemma dropUnless_bind {α : Type} {condition : Prop} [Decidable condition]
    {p : CheckedDecoder α} {q : Deserializer α} {remaining : Bytes}
    (hp : p remaining = orDropped (q remaining)) : (dropUnless condition >>= fun _ => p) remaining =
      orDropped ((require condition >>= fun _ => q) remaining) := by
  rw [Uplane.require_bind]
  simp only [dropUnless]
  split
  · exact hp
  · rfl

variable {message : Bytes}

lemma decodeHeader_eq_orDropped (hlen : nofBytesUpHeader ≤ message.length) :
    decodeHeader config message =
      orDropped (Uplane.decodeHeader config message) := by
  obtain ⟨_, _, _, _, rest, rfl⟩ := exists_four_bytes hlen
  -- Both decoders are through with their reads; six conditions are left.
  iterate 6 apply dropUnless_bind
  rfl

lemma decodeHeader_failed (hhdr : ¬HeaderWellFormed config message) :
    ∃ failure, decodeHeader config message = .error (.failed failure) := by
  obtain hshort | hlen := Nat.lt_or_ge message.length nofBytesUpHeader
  · have hrequire : requireBytes nofBytesUpHeader message = .error (.failed .incomplete) :=
      if_pos hshort
    exact ⟨.incomplete, bind_of_eq_error hrequire _⟩
  · refine ⟨.malformed, ?_⟩
    rw [decodeHeader_eq_orDropped config hlen, decodeHeader_eq, if_neg hhdr]
    rfl

end

section

variable {Sample : Type} [Inhabited Sample] (decompressor : IqDecompressor Sample)
  (config : UplaneDecoderConfig)

def fillResults (decoded : Uplane.UplaneSectionParams)
    (iqSamples : List Sample) : UplaneSectionParams Sample where
  sectionId := decoded.sectionId
  isEveryRbUsed := decoded.isEveryRbUsed
  useCurrentSymbolNumber := decoded.useCurrentSymbolNumber
  startPrb := decoded.startPrb
  nofPrbs := decoded.nofPrbs
  udCompHdr := decoded.udCompHdr
  udCompLen := decoded.udCompLen
  iqSamples := iqSamples

def decompressSection (decoded : Uplane.UplaneSectionParams) :
    Option (UplaneSectionParams Sample) :=
  (decompressSamples decompressor decoded.nofPrbs decoded.compressedData
    decoded.udCompHdr).map (fillResults decoded)

def orStopped {α : Type} : Option α → Except SectionStop α
  | none => .error (.faulted .applicationStopped)
  | some a => .ok a

lemma followedBy_decodeSection : FollowedBy (decodeSection decompressor config)
      (Uplane.decodeSection config)
      fun decoded => orStopped (decompressSection decompressor decoded) := by
  apply (followedBy_decodeSectionHeader config).bind
  rintro ⟨sectionId, isEveryRbUsed, useCurrentSymbolNumber, startPrb, nofPrbs⟩
  apply (followedBy_decodeCompressionHeader config).bind
  intro udCompHdr
  apply (followedBy_decodeCompressionLength udCompHdr.type).bind
  intro udCompLen remaining
  -- The view is as long as the number of bytes that were required.
  rw [prbIqDataSize_eq, Nat.mul_comm (getCompressedPrbSize udCompHdr)]
  rcases Nat.lt_or_ge remaining.length (nofPrbs * getCompressedPrbSize udCompHdr) with
    hshort | hlong
  · have hrequire : requireBytes (nofPrbs * getCompressedPrbSize udCompHdr) remaining =
        .error (.failed .incomplete) := if_pos hshort
    rw [bind_of_eq_error hrequire, bind_of_eq_error (requireBytes_of_lt hshort)]
    rfl
  · have hrequire : requireBytes (nofPrbs * getCompressedPrbSize udCompHdr) remaining =
        .ok ((), remaining) := if_neg (not_lt.mpr hlong)
    have hview : getViewAndAdvance (nofPrbs * getCompressedPrbSize udCompHdr) remaining =
        .ok (remaining.take (nofPrbs * getCompressedPrbSize udCompHdr),
          remaining.drop (nofPrbs * getCompressedPrbSize udCompHdr)) := if_neg (not_lt.mpr hlong)
    rw [bind_of_eq_ok hrequire, bind_of_eq_ok (requireBytes_of_le hlong)]
    simp only [decodeIqData, bind_assoc]
    rw [bind_of_eq_ok hview]
    change _ = (orStopped ((decompressSamples decompressor nofPrbs
      (remaining.take (nofPrbs * getCompressedPrbSize udCompHdr)) udCompHdr).map _)).map _
    cases decompressSamples decompressor nofPrbs
        (remaining.take (nofPrbs * getCompressedPrbSize udCompHdr)) udCompHdr with
    | none | some iqSamples => rfl

variable {config}

variable {bytes : Bytes}

lemma decodeSection_eq : decodeSection decompressor config bytes =
      if SectionComplete config bytes then
        (orStopped (decompressSection decompressor (sectionAt config bytes))).map
          fun decoded => (decoded, bytesAfterSection config bytes)
      else .error (.failed (if NamesReserved config bytes then .malformed else .incomplete)) := by
  rw [followedBy_decodeSection]
  by_cases hcompl : SectionComplete config bytes
  · rw [if_pos hcompl, decodeSection_of_complete config hcompl]
    rfl
  rw [if_neg hcompl]
  by_cases hnames : NamesReserved config bytes
  · rw [if_pos hnames, decodeSection_of_namesReserved config hnames]
    rfl
  · rw [if_neg hnames, decodeSection_of_incomplete config hnames
      (not_le.mp fun hle => hcompl ⟨hnames, hle⟩)]
    rfl

end

end ProtoRu.UplaneIq
