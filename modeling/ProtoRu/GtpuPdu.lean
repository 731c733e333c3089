import ProtoRu.BitEncoding

namespace ProtoRu.Gtpu

open BitEncoding

def baseHeaderLen : Nat := 8

def extendedHeaderLen : Nat := 12

def maxNumHeaderExtensions : Nat := 10

/-- Any byte may be cast to an extension header type. -/
abbrev ExtensionHeaderType := UInt8

namespace ExtensionHeaderType

def noMoreExtensionHeaders : ExtensionHeaderType := 0x00
def reserved0 : ExtensionHeaderType := 0x01
def reserved1 : ExtensionHeaderType := 0x02
def nrRanContainer : ExtensionHeaderType := 0x84
def pduSessionContainer : ExtensionHeaderType := 0x85
def pdcpPduNumber : ExtensionHeaderType := 0xc0
def reserved2 : ExtensionHeaderType := 0xc1
def reserved3 : ExtensionHeaderType := 0xc2

end ExtensionHeaderType

open ExtensionHeaderType

structure ExtensionHeader where
  extensionHeaderType : ExtensionHeaderType
  container : Bytes

structure Flags where
  version : Nat := 1
  protocolType : Nat := 0
  extHdr : Bool := false
  seqNumber : Bool := false
  nPdu : Bool := false
deriving DecidableEq

@[ext]
structure Header where
  flags : Flags := {}
  messageType : UInt8 := 0
  length : UInt16 := 0
  teid : UInt32 := 0
  seqNumber : UInt16 := 0
  nPdu : UInt8 := 0
  nextExtHdrType : ExtensionHeaderType := noMoreExtensionHeaders
  extList : List ExtensionHeader
  extList_le : extList.length ≤ maxNumHeaderExtensions

def fixedHeader (flags : Flags) (messageType : UInt8) (length : UInt16) (teid : UInt32) :
    Header where
  flags := flags
  messageType := messageType
  length := length
  teid := teid
  extList := []
  extList_le := Nat.zero_le _

structure DissectedPdu where
  buf : Bytes
  hdr : Header
  hdrLen : Nat

def supportedFlagsCheck (flags : Flags) : Bool :=
  flags.version == 1 && flags.protocolType == 1 && !flags.nPdu

def msgEchoRequest : UInt8 := 1
def msgEchoResponse : UInt8 := 2
def msgErrorIndication : UInt8 := 26
def msgEndMarker : UInt8 := 254
def msgDataPdu : UInt8 := 255

def supportedMsgTypeCheck (messageType : UInt8) : Bool :=
  messageType == msgDataPdu || messageType == msgEchoRequest ||
    messageType == msgEchoResponse || messageType == msgErrorIndication ||
    messageType == msgEndMarker

/-- Types not comprehended are accepted if their two highest bits do not require it at the
endpoint. -/
def extensionHeaderComprehensionCheck (type : ExtensionHeaderType) : Bool :=
  if type = noMoreExtensionHeaders then true
  else if type ∈ [nrRanContainer, pduSessionContainer, pdcpPduNumber] then true
  else if type ∈ [reserved0, reserved1, reserved2, reserved3] then false
  else !(type >>> 6 == 2 || type >>> 6 == 3)

section

def Header.optional (header : Header) : Bool :=
  !header.extList.isEmpty || header.flags.seqNumber || header.flags.nPdu

def getLength (header : Header) (sduLength : Nat) : UInt16 :=
  let len := UInt16.ofNat sduLength
  let len := if header.optional then len + 4 else len
  header.extList.foldl (fun len ext => len + 2 + UInt16.ofNat ext.container.length) len

/-- The size is kept in eight bits and asserted to be a number of four-byte units. -/
def writeExtHeader (e : BitEncoder) (ext : ExtensionHeader) (next : ExtensionHeaderType) :
    Option BitEncoder :=
  let payload := UInt8.ofNat (1 + ext.container.length + 1)
  if payload % 4 = 0 then
    some (((e.pack (payload / 4).toNat 8).packBytes ext.container).pack next.toNat 8)
  else none

def writeFlags (e : BitEncoder) (header : Header) : BitEncoder :=
  let e := e.pack header.flags.version 3
  let e := e.pack header.flags.protocolType 1
  let e := e.pack 0 1
  let e := e.pack (if header.extList.isEmpty then 0 else 1) 1
  let e := e.pack (if header.flags.seqNumber then 1 else 0) 1
  e.pack (if header.flags.nPdu then 1 else 0) 1

def firstType (exts : List ExtensionHeader) : ExtensionHeaderType :=
  exts.head?.elim noMoreExtensionHeaders ExtensionHeader.extensionHeaderType

def writeOptional (e : BitEncoder) (header : Header) : BitEncoder :=
  if header.optional then
    let e := e.pack header.seqNumber.toNat 16
    let e := e.pack header.nPdu.toNat 8
    e.pack (firstType header.extList).toNat 8
  else e

def writeExtensions : List ExtensionHeader → BitEncoder → Option BitEncoder
  | [], e => some e
  | ext :: exts, e => do
      let e ← writeExtHeader e ext (firstType exts)
      writeExtensions exts e

def writeHeader (header : Header) (sdu : Bytes) : Option Bytes :=
  if !supportedFlagsCheck header.flags then none
  else if !supportedMsgTypeCheck header.messageType then none
  else
    let e := writeFlags {} header
    let e := e.pack header.messageType.toNat 8
    let e := e.pack (getLength header sdu.length).toNat 16
    let e := e.pack header.teid.toNat 32
    (writeExtensions header.extList (writeOptional e header)).map fun e => e.bytes ++ sdu

end

section

/-- The results of single reads are not looked at. -/
def readFlags (d : BitDecoder) : Flags × BitDecoder :=
  let version := d.unpack 3
  let protocolType := version.decoder.unpack 1
  let spare := protocolType.decoder.unpack 1
  let extHdr := spare.decoder.unpack 1
  let seqNumber := extHdr.decoder.unpack 1
  let nPdu := seqNumber.decoder.unpack 1
  (⟨version.val, protocolType.val, extHdr.val == 1, seqNumber.val == 1, nPdu.val == 1⟩,
    nPdu.decoder)

def unpackExtHeaderType (d : BitDecoder) : ExtensionHeaderType × BitDecoder :=
  let type := d.unpack 8
  (UInt8.ofNat type.val, type.decoder)

def containerSize (length : UInt8) : UInt16 := length.toUInt16 * 4 - 2

def readExtHeader (d : BitDecoder) (type : ExtensionHeaderType) :
    ExtensionHeader × ExtensionHeaderType × BitDecoder :=
  let length := d.unpack 8
  let container := length.decoder.unpackAlignedBytes (containerSize (UInt8.ofNat length.val)).toNat
  let next := unpackExtHeaderType container.2
  (⟨type, container.1⟩, next.1, next.2)

/-- One round more than there is room for: the round without room fails. -/
def readExtensions : Nat → ExtensionHeaderType → List ExtensionHeader → BitDecoder →
    Option (List ExtensionHeader × BitDecoder)
  | 0, _, _, _ => none
  | room + 1, type, exts, d =>
    if !extensionHeaderComprehensionCheck type then none
    else
      let ext := readExtHeader d type
      if room = 0 then none
      else if ext.2.1 = noMoreExtensionHeaders then some (exts ++ [ext.1], ext.2.2)
      else readExtensions room ext.2.1 (exts ++ [ext.1]) ext.2.2

lemma length_readExtensions {room : Nat} {type : ExtensionHeaderType}
    {exts : List ExtensionHeader} {d : BitDecoder} {result : List ExtensionHeader × BitDecoder}
    (h : readExtensions (room + 1) type exts d = some result) :
    result.1.length ≤ exts.length + room := by
  induction room generalizing type exts d with
  | zero => simp [readExtensions] at h
  | succ room ih =>
    rw [readExtensions] at h
    split at h
    · cases h
    simp only [Nat.succ_ne_zero, if_false] at h
    split at h
    · cases h
      rw [List.length_append, List.length_singleton]
      omega
    · have hle := ih h
      rw [List.length_append, List.length_singleton] at hle
      omega

def dissectExtensions (header : Header) (d : BitDecoder) : Option (Header × BitDecoder) :=
  if header.flags.extHdr then
    if header.nextExtHdrType = noMoreExtensionHeaders then none
    else
      match h : readExtensions (maxNumHeaderExtensions + 1) header.nextExtHdrType [] d with
      | none => none
      | some result =>
        some ({ header with
          extList := result.1
          extList_le := (length_readExtensions h).trans_eq (Nat.zero_add _) }, result.2)
  else some (header, d)

def dissectOptional (header : Header) (d : BitDecoder) : Option (Header × BitDecoder) :=
  if header.flags.extHdr || header.flags.seqNumber || header.flags.nPdu then
    if d.buffer.length < extendedHeaderLen then none
    else
      let seqNumber := d.unpack 16
      let nPdu := seqNumber.decoder.unpack 8
      let type := unpackExtHeaderType nPdu.decoder
      if !extensionHeaderComprehensionCheck type.1 then none
      else
        some ({ header with
          seqNumber := UInt16.ofNat seqNumber.val
          nPdu := UInt8.ofNat nPdu.val
          nextExtHdrType := type.1 }, type.2)
  else some (header, d)

def dissectPdu (rawPdu : Bytes) : Option DissectedPdu := do
  if rawPdu.length < baseHeaderLen then none
  else
    let flags := readFlags ⟨rawPdu, 0, 0⟩
    if !supportedFlagsCheck flags.1 then none
    else
      let messageType := flags.2.unpack 8
      let length := messageType.decoder.unpack 16
      let teid := length.decoder.unpack 32
      if UInt16.ofNat length.val ≠ UInt16.ofNat (rawPdu.length - baseHeaderLen) then none
      else
        let optional ← dissectOptional
          (fixedHeader flags.1 (UInt8.ofNat messageType.val) (UInt16.ofNat length.val)
            (UInt32.ofNat teid.val)) teid.decoder
        let extensions ← dissectExtensions optional.1 optional.2
        some ⟨rawPdu, extensions.1, extensions.2.nofBytes⟩

def extractMsg (pdu : DissectedPdu) : Bytes := pdu.buf.drop pdu.hdrLen

end

end ProtoRu.Gtpu
