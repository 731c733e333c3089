import ProtoRu.MacDlSchEncoding
import Mathlib.Data.List.Nodup

/-!
What the retransmissions on the DL HARQ processes of a cell carry. Each buffer belongs to one
HARQ process, and a new transmission that is made leaves its transport block at the front of
it. A new transmission that finds its buffer still referenced hands zeros down and leaves the
transport block before it where it is, and this one is what a retransmission then sends.
-/

namespace ProtoRu.MacDlSch

open Option
open BufferPool (giveToUe growUeBuffers setStorage)
open List

/-- A retransmission, and what the latest new transmission of its HARQ process handed down. -/
structure Retransmission where
  bytes : Bytes
  latestNewTx : Option Bytes
deriving DecidableEq

/-- The bytes are those of the latest new transmission, as far as they go, or all zero. -/
def Retransmission.Own (r : Retransmission) : Prop :=
  (∃ tb ∈ r.latestNewTx, r.bytes <+: tb) ∨ ∀ byte ∈ r.bytes, byte = 0
  deriving Decidable

structure Cell where
  mac : MacDl
  latestNewTx : Nat → Nat → Option Bytes
  retransmissions : List Retransmission

inductive Event (σ : Type) where
  | newTx (rnti harqId : Nat) (newTx : NewTx σ) (tbSizeBytes : Nat)
  | retx (rnti harqId tbsBytes : Nat)
  | allocateUe (ueIndex nofHarqs : Nat)
  | deallocateUe (ueIndex : Nat)
  | setRnti (rnti : Nat) (ueIndex : Option Nat)
  | release (i : Nat)

inductive Fault where
  | assertion
deriving DecidableEq

namespace Cell

variable (c : Cell)

def recordNewTx (rnti harqId : Nat) (bytes : Bytes) : Nat → Nat → Option Bytes :=
  fun ueIndex other =>
    if c.mac.rntiTable rnti = some ueIndex ∧ other = harqId then some bytes
    else c.latestNewTx ueIndex other

def recordRetx (rnti harqId : Nat) (bytes : Bytes) : Retransmission :=
  ⟨bytes, (c.mac.rntiTable rnti).bind fun ueIndex => c.latestNewTx ueIndex harqId⟩

def forgetUe (ueIndex : Nat) : Nat → Nat → Option Bytes :=
  fun other harqId => if other = ueIndex then none else c.latestNewTx other harqId

def step {σ : Type} (c : Cell) : Event σ → Except Fault Cell
  | .newTx rnti harqId newTx tbSizeBytes =>
    (c.mac.assembleNewtxPdu rnti harqId newTx tbSizeBytes).elim (.error .assertion)
      fun (mac, block, _) =>
        .ok { c with mac := mac, latestNewTx := c.recordNewTx rnti harqId block.bytes }
  | .retx rnti harqId tbsBytes =>
    (c.mac.assembleRetxPdu rnti harqId tbsBytes).elim (.error .assertion) fun (mac, block) =>
      .ok { c with
        mac := mac
        retransmissions := c.retransmissions ++ [c.recordRetx rnti harqId block.bytes] }
  | .allocateUe ueIndex nofHarqs =>
    if ueIndex < maxNofDuUes ∧ nofHarqs ≤ maxNofHarqs then
      .ok { c with
        mac := { c.mac with pool := c.mac.pool.allocateUeBuffers ueIndex nofHarqs } }
    else .error .assertion
  | .deallocateUe ueIndex =>
    if ueIndex < maxNofDuUes then
      .ok { c with
        mac := { c.mac with pool := c.mac.pool.deallocateUeBuffers ueIndex }
        latestNewTx := c.forgetUe ueIndex }
    else .error .assertion
  | .setRnti rnti ueIndex =>
    .ok { c with
      mac := { c.mac with
        rntiTable := fun other => if other = rnti then ueIndex else c.mac.rntiTable other } }
  | .release i => .ok { c with mac := c.mac.release i }

def create (maxPduLen : Nat) : Cell where
  mac := ⟨BufferPool.create maxPduLen, fun _ => none, []⟩
  latestNewTx := fun _ _ => none
  retransmissions := []

/-- No new transmission is refused, and each retransmission follows one of at least its size. -/
def Accepts {σ : Type} (c : Cell) : Event σ → Prop
  | .newTx rnti harqId _ tbSizeBytes =>
    ∀ ueIndex ∈ c.mac.rntiTable rnti, ∀ id ∈ (c.mac.pool.cellBuffers ueIndex)[harqId]?,
      (c.mac.pool.storages id).refCnt = 0 ∧ tbSizeBytes ≤ (c.mac.pool.storages id).buffer.length
  | .retx rnti harqId tbsBytes =>
    ∀ ueIndex ∈ c.mac.rntiTable rnti, ∃ tb ∈ c.latestNewTx ueIndex harqId, tbsBytes ≤ tb.length
  | _ => True

end Cell

open Cell

variable {id : Nat} (maxPduLen : Nat)

section

structure Partitioned (p : BufferPool) : Prop where
  taken : ∀ ueIndex, ∀ id ∈ p.cellBuffers ueIndex, p.poolElemIndex ≤ id
  nodup : ∀ ueIndex, (p.cellBuffers ueIndex).Nodup
  apart : ∀ ueIndex other id, id ∈ p.cellBuffers ueIndex → id ∈ p.cellBuffers other →
    ueIndex = other
  cacheTaken : ∀ id ∈ p.bufferCache, p.poolElemIndex ≤ id
  cacheNodup : p.bufferCache.Nodup
  cacheApart : ∀ id ∈ p.bufferCache, ∀ ueIndex, id ∉ p.cellBuffers ueIndex

structure Unheld (p : BufferPool) (id : Nat) : Prop where
  taken : p.poolElemIndex ≤ id
  cache : id ∉ p.bufferCache
  ues : ∀ ueIndex, id ∉ p.cellBuffers ueIndex

structure Extends (p q : BufferPool) : Prop where
  buffers : ∀ ueIndex, p.cellBuffers ueIndex <+: q.cellBuffers ueIndex
  bytes : ∀ ueIndex, ∀ id ∈ p.cellBuffers ueIndex, (q.storages id).buffer = (p.storages id).buffer

variable {p q r : BufferPool}

lemma Extends.refl (p : BufferPool) : Extends p p :=
  ⟨fun _ => prefix_rfl, fun _ _ _ => rfl⟩

lemma Extends.trans (h : Extends p q) (h' : Extends q r) : Extends p r where
  buffers ueIndex := (h.buffers ueIndex).trans (h'.buffers ueIndex)
  bytes ueIndex id hid :=
    (h'.bytes ueIndex id ((h.buffers ueIndex).subset hid)).trans (h.bytes ueIndex id hid)

section

variable (h : Partitioned p)

include h

lemma Partitioned.setStorage (id : Nat) (storage : Storage) :
    Partitioned (p.setStorage id storage) :=
  ⟨h.taken, h.nodup, h.apart, h.cacheTaken, h.cacheNodup, h.cacheApart⟩

lemma Partitioned.holder_unique {ueIndex other harqId otherHarq id : Nat}
    (hid : (p.cellBuffers ueIndex)[harqId]? = some id)
    (hother : (p.cellBuffers other)[otherHarq]? = some id) :
    ueIndex = other ∧ harqId = otherHarq := by
  obtain rfl := h.apart ueIndex other id (mem_of_getElem? hid) (mem_of_getElem? hother)
  refine ⟨rfl, ?_⟩
  obtain ⟨hlt, -⟩ := List.getElem?_eq_some_iff.mp hid
  exact (getElem?_inj hlt (h.nodup ueIndex)).mp (hid.trans hother.symm)

lemma allocateFromPool_spec (halloc : p.allocateFromPool = some (id, q)) :
    Partitioned q ∧ Unheld q id ∧ Extends p q := by
  rw [BufferPool.allocateFromPool] at halloc
  split at halloc
  · cases halloc
  cases halloc
  have hbelow : ∀ other, p.poolElemIndex ≤ other → p.poolElemIndex - 1 ≤ other := by omega
  have hother : ∀ other, p.poolElemIndex ≤ other → other ≠ p.poolElemIndex - 1 := by omega
  refine ⟨⟨?_, h.nodup, h.apart, ?_, h.cacheNodup, h.cacheApart⟩, ⟨le_rfl, ?_, ?_⟩,
    ⟨fun _ => prefix_rfl, ?_⟩⟩
  · intro ueIndex id hid
    exact hbelow id (h.taken ueIndex id hid)
  · intro id hid
    exact hbelow id (h.cacheTaken id hid)
  · intro hid
    exact hother _ (h.cacheTaken _ hid) rfl
  · intro ueIndex hid
    exact hother _ (h.taken ueIndex _ hid) rfl
  · intro ueIndex id hid
    show (if id = p.poolElemIndex - 1 then _ else p.storages id).buffer = _
    rw [if_neg (hother id (h.taken ueIndex id hid))]

lemma allocateFromCache_spec (halloc : p.allocateFromCache = some (id, q)) :
    Partitioned q ∧ Unheld q id ∧ Extends p q := by
  obtain ⟨found, hfound, hsame⟩ := map_eq_some_iff.mp halloc
  cases hsame
  have hmem : id ∈ p.bufferCache := mem_reverse.mp (mem_of_find?_eq_some hfound)
  have hnodup : p.bufferCache.reverse.Nodup := nodup_reverse.mpr h.cacheNodup
  have hrest : ∀ other ∈ (p.bufferCache.reverse.erase id).reverse, other ∈ p.bufferCache :=
    fun other hother => mem_reverse.mp (mem_of_mem_erase (mem_reverse.mp hother))
  refine ⟨⟨h.taken, h.nodup, h.apart, ?_, ?_, ?_⟩, ⟨h.cacheTaken id hmem, ?_, h.cacheApart id hmem⟩,
    ⟨fun _ => prefix_rfl, fun _ _ _ => rfl⟩⟩
  · intro other hother
    exact h.cacheTaken other (hrest other hother)
  · exact nodup_reverse.mpr (hnodup.erase id)
  · intro other hother
    exact h.cacheApart other (hrest other hother)
  · intro hid
    exact hnodup.not_mem_erase (mem_reverse.mp hid)

lemma giveToUe_spec (hid : Unheld p id) (ueIndex : Nat) :
    Partitioned (p.giveToUe ueIndex id) ∧ Extends p (p.giveToUe ueIndex id) := by
  have hmem : ∀ other held, held ∈ (p.giveToUe ueIndex id).cellBuffers other →
      held ∈ p.cellBuffers other ∨ held = id ∧ other = ueIndex := by
    intro other held hheld
    simp only [giveToUe] at hheld
    split_ifs at hheld with hsame
    · subst hsame
      obtain hold | hnew := mem_append.mp hheld
      · exact .inl hold
      · exact .inr ⟨mem_singleton.mp hnew, rfl⟩
    · exact .inl hheld
  refine ⟨⟨?_, ?_, ?_, h.cacheTaken, h.cacheNodup, ?_⟩, ⟨?_, fun _ _ _ => rfl⟩⟩
  · intro other held hheld
    obtain hold | ⟨rfl, -⟩ := hmem other held hheld
    · exact h.taken other held hold
    · exact hid.taken
  · intro other
    simp only [giveToUe]
    split
    · apply (h.nodup ueIndex).append (nodup_singleton id)
      rintro held hheld hnew
      rw [mem_singleton.mp hnew] at hheld
      exact hid.ues ueIndex hheld
    · exact h.nodup other
  · intro first second held hfirst hsecond
    obtain hold | ⟨hnew, hsame⟩ := hmem first held hfirst
    · obtain hold' | ⟨rfl, -⟩ := hmem second held hsecond
      · exact h.apart first second held hold hold'
      · exact absurd hold (hid.ues first)
    obtain hold' | ⟨-, hsame'⟩ := hmem second held hsecond
    · rw [hnew] at hold'
      exact absurd hold' (hid.ues second)
    · exact hsame.trans hsame'.symm
  · intro held hheld other hother
    obtain hold | ⟨rfl, -⟩ := hmem other held hother
    · exact h.cacheApart held hheld other hold
    · exact hid.cache hheld
  · intro other
    simp only [giveToUe]
    split_ifs with hsame
    · rw [hsame]
      exact prefix_append _ _
    · exact prefix_rfl

end

lemma growUeBuffers_spec (ueIndex missing : Nat) (h : Partitioned p) :
    Partitioned (growUeBuffers ueIndex missing p) ∧
      Extends p (growUeBuffers ueIndex missing p) := by
  induction missing generalizing p with
  | zero => exact ⟨h, .refl p⟩
  | succ missing ih =>
    rw [growUeBuffers]
    split
    · exact ⟨h, .refl p⟩
    rename_i id q halloc
    have hspec : Partitioned q ∧ Unheld q id ∧ Extends p q := by
      split at halloc
      · exact allocateFromPool_spec h halloc
      · exact allocateFromCache_spec h halloc
    obtain ⟨hq, hid, hextends⟩ := hspec
    obtain ⟨hgiven, hextends'⟩ := giveToUe_spec hq hid ueIndex
    obtain ⟨hpart, hgrown⟩ := ih hgiven
    exact ⟨hpart, (hextends.trans hextends').trans hgrown⟩

lemma allocateUeBuffers_spec (h : Partitioned p) (ueIndex nofHarqs : Nat) :
    Partitioned (p.allocateUeBuffers ueIndex nofHarqs) ∧
      Extends p (p.allocateUeBuffers ueIndex nofHarqs) := by
  rw [BufferPool.allocateUeBuffers]
  split
  · exact ⟨h, .refl p⟩
  · exact growUeBuffers_spec ueIndex nofHarqs h

lemma Partitioned.deallocateUeBuffers (h : Partitioned p) (ueIndex : Nat) :
    Partitioned (p.deallocateUeBuffers ueIndex) := by
  have hmem : ∀ other held, held ∈ (p.deallocateUeBuffers ueIndex).cellBuffers other →
      held ∈ p.cellBuffers other ∧ other ≠ ueIndex := by
    intro other held hheld
    simp only [BufferPool.deallocateUeBuffers] at hheld
    split_ifs at hheld with hne
    · cases hheld
    · exact ⟨hheld, hne⟩
  refine ⟨?_, ?_, ?_, ?_, ?_, ?_⟩
  · intro other held hheld
    exact h.taken other held (hmem other held hheld).1
  · intro other
    simp only [BufferPool.deallocateUeBuffers]
    split
    · exact nodup_nil
    · exact h.nodup other
  · intro first second held hfirst hsecond
    exact h.apart first second held (hmem first held hfirst).1 (hmem second held hsecond).1
  · exact forall_mem_append.mpr ⟨h.cacheTaken, h.taken ueIndex⟩
  · apply h.cacheNodup.append (h.nodup ueIndex)
    intro held hcache hheld
    exact h.cacheApart held hcache ueIndex hheld
  · intro held hheld other hother
    obtain ⟨hother, hne⟩ := hmem other held hother
    obtain hold | hnew := mem_append.mp hheld
    · exact h.cacheApart held hold other hother
    · exact hne (h.apart other ueIndex held hother hnew)

lemma Partitioned.fillCache (missing : Nat) (h : Partitioned p) :
    Partitioned (BufferPool.fillCache missing p) := by
  induction missing generalizing p with
  | zero => exact h
  | succ missing ih =>
    rw [BufferPool.fillCache]
    split
    · exact h
    rename_i id q halloc
    obtain ⟨hq, hid, -⟩ := allocateFromPool_spec h halloc
    apply ih
    refine ⟨hq.taken, hq.nodup, hq.apart, ?_, ?_, ?_⟩
    · exact forall_mem_append.mpr ⟨hq.cacheTaken, forall_mem_singleton.mpr hid.taken⟩
    · apply hq.cacheNodup.append (nodup_singleton id)
      intro other hother hnew
      rw [mem_singleton.mp hnew] at hother
      exact hid.cache hother
    · exact forall_mem_append.mpr ⟨hq.cacheApart, forall_mem_singleton.mpr hid.ues⟩

lemma create_partitioned : Partitioned (BufferPool.create maxPduLen) := by
  apply Partitioned.fillCache
  refine ⟨nofun, fun _ => nodup_nil, nofun, nofun, nodup_nil, nofun⟩

lemma extends_setRefCnt (p : BufferPool) (id refCnt : Nat) :
    Extends p (p.setStorage id { p.storages id with refCnt := refCnt }) := by
  refine ⟨fun _ => prefix_rfl, fun _ _ _ => ?_⟩
  simp only [setStorage]
  split_ifs with hsame
  · rw [hsame]
  · rfl

end

section

variable {m : MacDl}

variable {rnti harqId : Nat} {tbSizeBytes : Nat}

lemma assembleNewtxPdu_cases {σ : Type} {newTx : NewTx σ}
    {result : MacDl × TransportBlock × List Content}
    (h : m.assembleNewtxPdu rnti harqId newTx tbSizeBytes = some result) :
    m.rntiTable rnti = none ∧ result.1 = m ∨ ∃ ueIndex id, m.rntiTable rnti = some ueIndex ∧
        (m.pool.cellBuffers ueIndex)[harqId]? = some id ∧
        (((m.pool.storages id).refCnt ≠ 0 ∨ (m.pool.storages id).buffer.length < tbSizeBytes) ∨
          ∃ front, result.1 = (m.writeBuffer id front).transferBuffer id ∧
            result.2.1.bytes <+: front) := by
  rw [MacDl.assembleNewtxPdu] at h
  cases hue : m.rntiTable rnti with
  | none =>
    rw [hue] at h
    cases h
    exact .inl ⟨rfl, rfl⟩
  | some ueIndex =>
    rw [hue] at h
    obtain ⟨free, hfree, h⟩ := bind_eq_some_iff.mp h
    obtain ⟨id, hid, rfl⟩ := map_eq_some_iff.mp hfree
    refine .inr ⟨ueIndex, id, rfl, hid, ?_⟩
    by_cases hheld : (m.pool.storages id).refCnt = 0
    · rw [if_pos hheld] at h
      simp only at h
      split_ifs at h with hshort
      · exact .inl (.inr hshort)
      obtain ⟨⟨a, fits⟩, hassemble, hresl⟩ := map_eq_some_iff.mp h
      obtain rfl : fits = true := assemble_fits hassemble
      cases hresl
      exact .inr ⟨a.pdu.pdu, rfl, take_prefix _ _⟩
    · exact .inl (.inl hheld)

lemma assembleRetxPdu_cases {tbsBytes : Nat} {result : MacDl × TransportBlock}
    (h : m.assembleRetxPdu rnti harqId tbsBytes = some result) :
    result = (m, zeroBlock tbsBytes) ∨ ∃ ueIndex id, m.rntiTable rnti = some ueIndex ∧
        (m.pool.cellBuffers ueIndex)[harqId]? = some id ∧ result.1 = m.transferBuffer id ∧
        result.2.bytes = (m.pool.storages id).buffer.take tbsBytes := by
  rw [MacDl.assembleRetxPdu] at h
  cases hue : m.rntiTable rnti with
  | none =>
    rw [hue] at h
    cases h
    exact .inl rfl
  | some ueIndex =>
    rw [hue] at h
    obtain ⟨free, hfree, h⟩ := map_eq_some_iff.mp h
    obtain ⟨id, hid, rfl⟩ := map_eq_some_iff.mp hfree
    by_cases hheld : (m.pool.storages id).refCnt = 0
    · rw [if_pos hheld] at h
      simp only at h
      split at h
      · exact .inl h.symm
      · cases h
        exact .inr ⟨ueIndex, id, rfl, hid, rfl, rfl⟩
    · rw [if_neg hheld] at h
      exact .inl h.symm

def Fronts (p : BufferPool) (latestNewTx : Nat → Nat → Option Bytes) : Prop :=
  ∀ ueIndex harqId tb, latestNewTx ueIndex harqId = some tb →
    ∃ id, (p.cellBuffers ueIndex)[harqId]? = some id ∧ tb <+: (p.storages id).buffer

lemma Fronts.extend {p q : BufferPool} {latestNewTx : Nat → Nat → Option Bytes}
    (h : Fronts p latestNewTx) (hextends : Extends p q) : Fronts q latestNewTx := by
  intro ueIndex harqId tb htb
  obtain ⟨id, hid, hfront⟩ := h ueIndex harqId tb htb
  obtain ⟨more, hmore⟩ := hextends.buffers ueIndex
  refine ⟨id, ?_, ?_⟩
  · obtain ⟨hlt, -⟩ := List.getElem?_eq_some_iff.mp hid
    rw [← hmore, getElem?_append_left hlt, hid]
  · rw [hextends.bytes ueIndex id (mem_of_getElem? hid)]
    exact hfront

structure Invariant (c : Cell) : Prop where
  partitioned : Partitioned c.mac.pool
  fronts : Fronts c.mac.pool c.latestNewTx
  own : ∀ r ∈ c.retransmissions, r.Own

variable {σ : Type} {c : Cell}

lemma fronts_writeBuffer (h : Invariant c) {ueIndex id : Nat}
    (hue : c.mac.rntiTable rnti = some ueIndex)
    (hid : (c.mac.pool.cellBuffers ueIndex)[harqId]? = some id) {front bytes : Bytes}
    (hfront : bytes <+: front) :
    Fronts (c.mac.writeBuffer id front).pool (c.recordNewTx rnti harqId bytes) := by
  intro other otherHarq tb htb
  rw [recordNewTx] at htb
  split_ifs at htb with hsame
  · obtain ⟨hother, rfl⟩ := hsame
    rw [hue] at hother
    cases hother
    cases htb
    refine ⟨id, hid, ?_⟩
    simp only [MacDl.writeBuffer, setStorage, if_true]
    exact hfront.trans (prefix_append _ _)
  · obtain ⟨held, hheld, hprefix⟩ := h.fronts other otherHarq tb htb
    have hne : held ≠ id := by
      rintro rfl
      obtain ⟨rfl, rfl⟩ := h.partitioned.holder_unique hid hheld
      exact hsame ⟨hue, rfl⟩
    refine ⟨held, hheld, ?_⟩
    simp only [MacDl.writeBuffer, setStorage, if_neg hne]
    exact hprefix

lemma step_newTx_invariant (h : Invariant c) {newTx : NewTx σ}
    (haccs : c.Accepts (.newTx rnti harqId newTx tbSizeBytes)) {after : Cell}
    (hstep : c.step (.newTx rnti harqId newTx tbSizeBytes) = .ok after) : Invariant after := by
  rw [step] at hstep
  cases hresl : c.mac.assembleNewtxPdu rnti harqId newTx tbSizeBytes with
  | none =>
    rw [hresl] at hstep
    cases hstep
  | some result =>
    rw [hresl] at hstep
    cases hstep
    obtain ⟨hunknown, hsame⟩ | ⟨ueIndex, id, hue, hid, hrefused | ⟨front, hwrit, hfront⟩⟩ :=
      assembleNewtxPdu_cases hresl
    · have hrecord : c.recordNewTx rnti harqId result.2.1.bytes = c.latestNewTx := by
        funext ueIndex other
        simp [recordNewTx, hunknown]
      simp only [hsame, hrecord]
      exact ⟨h.partitioned, h.fronts, h.own⟩
    · obtain ⟨hfree, hlarge⟩ := haccs ueIndex hue id hid
      omega
    · simp only [hwrit]
      refine ⟨(h.partitioned.setStorage _ _).setStorage _ _, ?_, h.own⟩
      exact (fronts_writeBuffer h hue hid hfront).extend (extends_setRefCnt _ _ _)

lemma step_retx_invariant (h : Invariant c) {tbsBytes : Nat}
    (haccs : c.Accepts (σ := σ) (.retx rnti harqId tbsBytes)) {after : Cell}
    (hstep : c.step (σ := σ) (.retx rnti harqId tbsBytes) = .ok after) : Invariant after := by
  rw [step] at hstep
  cases hresl : c.mac.assembleRetxPdu rnti harqId tbsBytes with
  | none =>
    rw [hresl] at hstep
    cases hstep
  | some result =>
    rw [hresl] at hstep
    cases hstep
    have happend : (c.recordRetx rnti harqId result.2.bytes).Own →
        ∀ r ∈ c.retransmissions ++ [c.recordRetx rnti harqId result.2.bytes], r.Own :=
      fun hnew => forall_mem_append.mpr ⟨h.own, forall_mem_singleton.mpr hnew⟩
    obtain rfl | ⟨ueIndex, id, hue, hid, htransfer, hbytes⟩ := assembleRetxPdu_cases hresl
    · refine ⟨h.partitioned, h.fronts, happend (.inr ?_)⟩
      intro byte hbyte
      exact eq_of_mem_replicate hbyte
    simp only [htransfer]
    refine ⟨h.partitioned.setStorage _ _, h.fronts.extend (extends_setRefCnt _ _ _),
      happend (.inl ?_)⟩
    obtain ⟨tb, htb, hsize⟩ := haccs ueIndex hue
    obtain ⟨held, hheld, hprefix⟩ := h.fronts ueIndex harqId tb htb
    obtain rfl : held = id := some.inj (hheld.symm.trans hid)
    refine ⟨tb, ?_, ?_⟩
    · simp only [recordRetx, hue, bind_some]
      exact htb
    show result.2.bytes <+: tb
    rw [hbytes]
    refine prefix_of_prefix_length_le ?_ hprefix ?_
    · exact take_prefix _ _
    · rw [length_take]
      omega

lemma step_invariant (c : Cell) (event : Event σ) (after : Cell) (h : Invariant c)
    (haccs : c.Accepts event) (hstep : c.step event = .ok after) : Invariant after := by
  cases event with
  | newTx rnti harqId newTx tbSizeBytes => exact step_newTx_invariant h haccs hstep
  | retx rnti harqId tbsBytes => exact step_retx_invariant h haccs hstep
  | allocateUe ueIndex nofHarqs =>
    rw [step] at hstep
    split at hstep
    · cases hstep
      obtain ⟨hpart, hextends⟩ := allocateUeBuffers_spec h.partitioned ueIndex nofHarqs
      exact ⟨hpart, h.fronts.extend hextends, h.own⟩
    · cases hstep
  | deallocateUe ueIndex =>
    rw [step] at hstep
    split at hstep
    · cases hstep
      refine ⟨h.partitioned.deallocateUeBuffers ueIndex, ?_, h.own⟩
      intro other harqId tb htb
      simp only [forgetUe] at htb
      split at htb
      · cases htb
      · rename_i hne
        simp only [BufferPool.deallocateUeBuffers, if_neg hne]
        exact h.fronts other harqId tb htb
    · cases hstep
  | setRnti rnti ueIndex =>
    cases hstep
    exact ⟨h.partitioned, h.fronts, h.own⟩
  | release i =>
    cases hstep
    simp only [MacDl.release]
    cases c.mac.inFlight[i]? with
    | none => exact h
    | some id =>
      exact ⟨h.partitioned.setStorage _ _, h.fronts.extend (extends_setRefCnt _ _ _), h.own⟩

lemma invariant_of_noUes {pool : BufferPool} (h : Partitioned pool) :
    Invariant ⟨⟨pool, fun _ => none, []⟩, fun _ _ => none, []⟩ :=
  ⟨h, nofun, nofun⟩

lemma create_invariant : Invariant (create maxPduLen) :=
  invariant_of_noUes (create_partitioned maxPduLen)

end

/-- If no new transmission is refused, retransmissions carry the latest block of their process, or
zeros. -/
theorem retransmissions_own {σ : Type} (maxPduLen : Nat) (events : List (Event σ)) (final : Cell)
    (hrun : events.foldlM step (create maxPduLen) = .ok final)
    (hguarded : GuardedRun step Cell.Accepts (create maxPduLen) events) :
    ∀ r ∈ final.retransmissions, r.Own :=
  (hguarded.invariant Invariant step_invariant hrun (create_invariant maxPduLen)).own

section

def noSdus : Rlc Unit where
  onNewTxSdu := fun _ _ _ => ⟨(), [], 0⟩
  written_le := fun _ _ _ => Nat.zero_le _
  length_le := fun _ _ _ => le_rfl

lemma repeated_length (byte : UInt8) : (replicate 6 byte).length = 6 := rfl

def resolution (byte : UInt8) : NewTx Unit where
  conRes := ⟨replicate 6 byte, repeated_length byte⟩
  rlc := noSdus
  rlcState := ()
  lcChsToSched := [conResToSched]

/-- Two transport blocks on one HARQ process, the last one repeated. The first is let go of before
or after the second is made. -/
def twoBlocks (releasedInTime : Bool) : List (Event Unit) :=
  [.allocateUe 0 1, .setRnti 0x4601 (some 0), .newTx 0x4601 0 (resolution 1) 8] ++
    (if releasedInTime then [.release 0, .newTx 0x4601 0 (resolution 2) 8, .release 0]
      else [.newTx 0x4601 0 (resolution 2) 8, .release 0]) ++
    [.retx 0x4601 0 8]

instance (c : Cell) (event : Event Unit) : Decidable (c.Accepts event) := by
  cases event <;> dsimp only [Accepts] <;> infer_instance

theorem secondBlock_repeated : ∃ final, (twoBlocks true).foldlM step (create 16) = .ok final ∧
      final.retransmissions =
        [⟨[0x3e, 2, 2, 2, 2, 2, 2, 0x3f], some [0x3e, 2, 2, 2, 2, 2, 2, 0x3f]⟩] ∧
      ∀ r ∈ final.retransmissions, r.Own := by
  have hrun : ((twoBlocks true).foldlM step (create 16)).map retransmissions =
      .ok [⟨[0x3e, 2, 2, 2, 2, 2, 2, 0x3f], some [0x3e, 2, 2, 2, 2, 2, 2, 0x3f]⟩] := by
    decide +kernel
  obtain ⟨final, hfinal, hsent⟩ := map_eq_ok_iff.mp hrun
  exact ⟨final, hfinal, hsent,
    retransmissions_own 16 (twoBlocks true) final hfinal (by decide +kernel)⟩

/-- The second transport block is refused while the first is held, and the first is sent again. -/
theorem firstBlock_repeated : ∃ final, (twoBlocks false).foldlM step (create 16) = .ok final ∧
      final.retransmissions = [⟨[0x3e, 1, 1, 1, 1, 1, 1, 0x3f], some (replicate 8 0)⟩] ∧
      ¬ ∀ r ∈ final.retransmissions, r.Own := by
  have hrun : ((twoBlocks false).foldlM step (create 16)).map retransmissions =
      .ok [⟨[0x3e, 1, 1, 1, 1, 1, 1, 0x3f], some (replicate 8 0)⟩] := by
    decide +kernel
  obtain ⟨final, hfinal, hsent⟩ := map_eq_ok_iff.mp hrun
  refine ⟨final, hfinal, hsent, ?_⟩
  rw [hsent]
  decide

end

end ProtoRu.MacDlSch
