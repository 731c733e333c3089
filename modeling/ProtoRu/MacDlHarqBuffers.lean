import ProtoRu.MacDlSchPdu

namespace ProtoRu.MacDlSch

structure Storage where
  refCnt : Nat
  buffer : Bytes

def maxNofDuUes : Nat := 8192

def maxNofHarqs : Nat := 32

/-- Buffers are named by their place. Those from the index on belong to a UE or are in the cache.
-/
structure BufferPool where
  maxPduLen : Nat
  storages : Nat → Storage
  cellBuffers : Nat → List Nat
  bufferCache : List Nat
  poolElemIndex : Nat

namespace BufferPool

variable (p : BufferPool)

def setStorage (id : Nat) (storage : Storage) : BufferPool :=
  { p with storages := fun other => if other = id then storage else p.storages other }

/-- A new buffer is as long as the longest PDU of the cell. -/
def allocateFromPool : Option (Nat × BufferPool) :=
  if p.poolElemIndex = 0 then none
  else
    let id := p.poolElemIndex - 1
    some (id, ({ p with poolElemIndex := id } : BufferPool).setStorage id
      { p.storages id with buffer := List.replicate p.maxPduLen 0 })

def allocateFromCache : Option (Nat × BufferPool) :=
  (p.bufferCache.reverse.find? fun id => (p.storages id).refCnt = 0).map fun id =>
    (id, { p with bufferCache := (p.bufferCache.reverse.erase id).reverse })

def giveToUe (ueIndex id : Nat) : BufferPool :=
  { p with
    cellBuffers := fun other =>
      if other = ueIndex then p.cellBuffers ueIndex ++ [id] else p.cellBuffers other }

def growUeBuffers (ueIndex : Nat) : Nat → BufferPool → BufferPool
  | 0, p => p
  | missing + 1, p =>
    match if p.bufferCache = [] then p.allocateFromPool else p.allocateFromCache with
    | none => p
    | some (id, p) => growUeBuffers ueIndex missing (p.giveToUe ueIndex id)

def allocateUeBuffers (ueIndex nofHarqs : Nat) : BufferPool :=
  if p.cellBuffers ueIndex ≠ [] then p else growUeBuffers ueIndex nofHarqs p

def deallocateUeBuffers (ueIndex : Nat) : BufferPool :=
  { p with
    bufferCache := p.bufferCache ++ p.cellBuffers ueIndex
    cellBuffers := fun other => if other = ueIndex then [] else p.cellBuffers other }

def dlHarqAllocBatch : Nat := maxNofHarqs * 2

def fillCache : Nat → BufferPool → BufferPool
  | 0, p => p
  | missing + 1, p =>
    match p.allocateFromPool with
    | none => p
    | some (id, p) => fillCache missing { p with bufferCache := p.bufferCache ++ [id] }

def create (maxPduLen : Nat) : BufferPool :=
  fillCache dlHarqAllocBatch
    { maxPduLen := maxPduLen
      storages := fun _ => ⟨0, []⟩
      cellBuffers := fun _ => []
      bufferCache := []
      poolElemIndex := maxNofDuUes * maxNofHarqs }

end BufferPool

/-- Bytes given to the lower layers, and their buffer unless they are the zeros of the fallback.
-/
structure TransportBlock where
  bytes : Bytes
  storage : Option Nat

def zeroBlock (size : Nat) : TransportBlock := ⟨List.replicate size 0, none⟩

/-- The MAC DL of a cell, with the UE of each RNTI and the buffers that the lower layers
hold. -/
structure MacDl where
  pool : BufferPool
  rntiTable : Nat → Option Nat
  inFlight : List Nat

structure NewTx (σ : Type) where
  conRes : UeConResId
  rlc : Rlc σ
  rlcState : σ
  lcChsToSched : List LcInfo

namespace MacDl

variable (m : MacDl)

def allocateDlHarqBuffer (ueIndex harqId : Nat) : Option (Option Nat) :=
  (m.pool.cellBuffers ueIndex)[harqId]?.map fun id =>
    if (m.pool.storages id).refCnt = 0 then some id else none

def writeBuffer (id : Nat) (front : Bytes) : MacDl :=
  { m with
    pool := m.pool.setStorage id
      { m.pool.storages id with
        buffer := front ++ (m.pool.storages id).buffer.drop front.length } }

def transferBuffer (id : Nat) : MacDl :=
  { m with
    pool := m.pool.setStorage id
      { m.pool.storages id with refCnt := (m.pool.storages id).refCnt + 1 }
    inFlight := m.inFlight ++ [id] }

def assembleNewtxPdu {σ : Type} (rnti harqId : Nat) (newTx : NewTx σ) (tbSizeBytes : Nat) :
    Option (MacDl × TransportBlock × List Content) :=
  match m.rntiTable rnti with
  | none => some (m, zeroBlock tbSizeBytes, [])
  | some ueIndex =>
    (m.allocateDlHarqBuffer ueIndex harqId).bind fun
      | none => some (m, zeroBlock tbSizeBytes, [])
      | some id =>
        if (m.pool.storages id).buffer.length < tbSizeBytes then
          some (m, zeroBlock tbSizeBytes, [])
        else
          (assemble newTx.rlc newTx.conRes newTx.lcChsToSched
            ((m.pool.storages id).buffer.take tbSizeBytes) newTx.rlcState).map fun (a, fits) =>
              let written := m.writeBuffer id a.pdu.pdu
              if fits then
                (written.transferBuffer id, ⟨a.pdu.pdu.take a.pdu.byteOffset, some id⟩, a.contents)
              else (written, zeroBlock tbSizeBytes, a.contents)

def assembleRetxPdu (rnti harqId tbsBytes : Nat) : Option (MacDl × TransportBlock) :=
  match m.rntiTable rnti with
  | none => some (m, zeroBlock tbsBytes)
  | some ueIndex =>
    (m.allocateDlHarqBuffer ueIndex harqId).map fun
      | none => (m, zeroBlock tbsBytes)
      | some id =>
        if (m.pool.storages id).buffer.length < tbsBytes then (m, zeroBlock tbsBytes)
        else (m.transferBuffer id, ⟨(m.pool.storages id).buffer.take tbsBytes, some id⟩)

def release (i : Nat) : MacDl :=
  m.inFlight[i]?.elim m fun id =>
    { m with
      pool := m.pool.setStorage id
        { m.pool.storages id with refCnt := (m.pool.storages id).refCnt - 1 }
      inFlight := m.inFlight.eraseIdx i }

end MacDl

end ProtoRu.MacDlSch
