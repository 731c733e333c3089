import ProtoRu.RlcRxDeliveries

namespace ProtoRu.Rlc

open RxEntity Nat List Option

variable {snSize : SnSize} {r : Nat}

/-- The NACK is about the SN. -/
def NackCovers (snSize : SnSize) (nack : Nack) (sn : Nat) : Prop :=
  ∃ i < nack.nofSdus, sn = (nack.nackSn + i) % snSize.cardinality

instance (snSize : SnSize) (nack : Nack) (sn : Nat) : Decidable (NackCovers snSize nack sn) :=
  inferInstanceAs (Decidable (∃ i < _, _))

/-- The NACKs, from the last to the first, lie below `stop`. Each may start at the last SN of the
one before. -/
def Reports (snSize : SnSize) (r : Nat) : List Nack → Nat → Prop
  | [], _ => True
  | back :: rest, stop =>
    ∃ i, back.nackSn = (r + i) % snSize.cardinality ∧ 0 < back.nofSdus ∧
      i + back.nofSdus ≤ stop ∧ Reports snSize r rest (i + 1)

variable {nacks : List Nack}

lemma Reports.mono {stop stop' : Nat} (hle : stop ≤ stop')
    (hreps : Reports snSize r nacks stop) : Reports snSize r nacks stop' := by
  cases nacks with
  | nil => trivial
  | cons back rest =>
    obtain ⟨i, hsn, hpos, hstop, hrest⟩ := hreps
    exact ⟨i, hsn, hpos, by omega, hrest⟩

def Reported (snSize : SnSize) (r : Nat) (nacks : List Nack) (k : Nat) : Prop :=
  ∃ nack ∈ nacks, ∃ i, nack.nackSn = (r + i) % snSize.cardinality ∧ i ≤ k ∧ k < i + nack.nofSdus

lemma Reported.covers {k : Nat} (hrepd : Reported snSize r nacks k) :
    ∃ nack ∈ nacks, NackCovers snSize nack ((r + k) % snSize.cardinality) := by
  obtain ⟨nack, hmem, i, hsn, hle, hlt⟩ := hrepd
  refine ⟨nack, hmem, k - i, by omega, ?_⟩
  rw [hsn, Nat.mod_add_mod, Nat.add_assoc, Nat.add_sub_cancel' hle]

lemma pushNack_reverse (nacks : List Nack) (nack : Nack) :
    (nacks = [] ∧ pushNack snSize nacks nack = [nack]) ∨ ∃ prev rest, nacks.reverse = prev :: rest ∧
        (pushNack snSize nacks nack).reverse =
          if canBeMerged snSize prev nack then mergeNack prev nack :: rest
          else nack :: prev :: rest := by
  obtain rfl | ⟨init, prev, rfl⟩ := eq_nil_or_concat nacks
  · exact .inl ⟨rfl, rfl⟩
  refine .inr ⟨prev, init.reverse, by simp, ?_⟩
  rw [pushNack, concat_eq_append, getLast?_concat]
  simp only [dropLast_concat]
  split <;> simp

lemma mergeNack_nofSdus (prev nack : Nack) :
    (mergeNack prev nack).nofSdus = prev.nofSdus + nack.nofSdus := by
  simp [mergeNack, Nack.nofSdus]

lemma offset_of_canBeMerged {prev nack : Nack} {i k : Nat}
    (hmerged : canBeMerged snSize prev nack) (hprev : prev.nackSn = (r + i) % snSize.cardinality)
    (hnack : nack.nackSn = (r + k) % snSize.cardinality)
    (hi : i + prev.nofSdus < snSize.cardinality) (hk : k < snSize.cardinality) :
    k = i + prev.nofSdus := by
  simp only [canBeMerged, Bool.and_eq_true, beq_iff_eq] at hmerged
  have hsn := hmerged.1.1.1
  rw [hprev, hnack, mod_add_mod] at hsn
  have heq := @eq_of_mod_eq_of_window snSize.cardinality r (r + k) (r + i + prev.nofSdus)
  omega

section

variable {nacks : List Nack} {nack : Nack} {k : Nat} (hsingle : nack.hasNackRange = false)
  (hsn : nack.nackSn = (r + k) % snSize.cardinality) (hk : k + 1 < snSize.cardinality)

include hsingle hsn hk

lemma pushNack_reports (hreps : Reports snSize r nacks.reverse (k + 1)) :
    Reports snSize r (pushNack snSize nacks nack).reverse (k + 1) := by
  have hone : nack.nofSdus = 1 := by rw [Nack.nofSdus, hsingle]; rfl
  obtain ⟨-, hpush⟩ | ⟨prev, rest, hrev, hpush⟩ := @pushNack_reverse snSize nacks nack
  · rw [hpush]
    exact ⟨k, hsn, by omega, by omega, trivial⟩
  rw [hrev] at hreps
  rw [hpush]
  split_ifs with hmerged
  · obtain ⟨i, hprev, hpos, hstop, hrest⟩ := hreps
    have hoff := offset_of_canBeMerged hmerged hprev hsn (by omega) (by omega)
    refine ⟨i, hprev, ?_, ?_, hrest⟩ <;> rw [mergeNack_nofSdus] <;> omega
  · exact ⟨k, hsn, by omega, by omega, hreps⟩

lemma pushNack_reported (hreps : Reports snSize r nacks.reverse (k + 1)) :
    Reported snSize r (pushNack snSize nacks nack) k ∧
      ∀ j, Reported snSize r nacks j → Reported snSize r (pushNack snSize nacks nack) j := by
  have hone : nack.nofSdus = 1 := by rw [Nack.nofSdus, hsingle]; rfl
  obtain ⟨rfl, hpush⟩ | ⟨prev, rest, hrev, hpush⟩ := @pushNack_reverse snSize nacks nack
  · rw [hpush]
    refine ⟨⟨nack, by simp, k, hsn, Nat.le_refl k, by omega⟩, ?_⟩
    rintro j ⟨other, hother, -⟩
    cases hother
  · have hmem (other : Nack) : other ∈ nacks ↔ other = prev ∨ other ∈ rest := by
      rw [← mem_reverse, hrev, mem_cons]
    rw [hrev] at hreps
    split_ifs at hpush with hmerged
    · obtain ⟨i, hprev, hpos, hstop, -⟩ := hreps
      have hoff := offset_of_canBeMerged hmerged hprev hsn (by omega) (by omega)
      have hin : mergeNack prev nack ∈ pushNack snSize nacks nack := by
        rw [← mem_reverse, hpush]
        simp
      refine ⟨⟨_, hin, i, hprev, by omega, by rw [mergeNack_nofSdus]; omega⟩, ?_⟩
      rintro j ⟨other, hother, i', hsn', hle, hlt⟩
      obtain rfl | hrest := (hmem other).mp hother
      · exact ⟨_, hin, i', hsn', hle, by rw [mergeNack_nofSdus]; omega⟩
      · refine ⟨other, ?_, i', hsn', hle, hlt⟩
        rw [← mem_reverse, hpush]
        simp [hrest]
    · have hpushed (other : Nack) : other ∈ pushNack snSize nacks nack ↔
          other = nack ∨ other ∈ nacks := by
        rw [← mem_reverse, hpush, hmem, mem_cons, mem_cons]
      refine ⟨⟨nack, (hpushed nack).mpr (.inl rfl), k, hsn, Nat.le_refl k, by omega⟩, ?_⟩
      rintro j ⟨other, hother, hrest⟩
      exact ⟨other, (hpushed other).mpr (.inr hother), hrest⟩

end

lemma foldl_pushNack_spec {added : List Nack} {k : Nat}
    (hadded : ∀ nack ∈ added, nack.nackSn = (r + k) % snSize.cardinality ∧ nack.hasNackRange =
      false) (hk : k + 1 < snSize.cardinality) (hreps : Reports snSize r nacks.reverse (k + 1)) :
    Reports snSize r (added.foldl (pushNack snSize) nacks).reverse (k + 1) ∧
      (∀ j, Reported snSize r nacks j → Reported snSize r (added.foldl (pushNack snSize) nacks) j) ∧
      (added ≠ [] → Reported snSize r (added.foldl (pushNack snSize) nacks) k) := by
  induction added generalizing nacks with
  | nil => exact ⟨hreps, fun _ => id, fun hne => absurd rfl hne⟩
  | cons nack rest ih =>
    obtain ⟨hsn, hsingle⟩ := hadded nack (by simp)
    obtain ⟨hnew, hold⟩ := pushNack_reported hsingle hsn hk hreps
    obtain ⟨hreps', hkept, -⟩ :=
      ih (fun other hother => hadded other (by simp [hother]))
        (pushNack_reports hsingle hsn hk hreps)
    exact ⟨hreps', fun j hj => hkept j (hold j hj), fun _ => hkept k hnew⟩

lemma gapNack_spec {sn lastSo so : Nat} {gap : List Nack} (h : gapNack sn lastSo so = some gap) :
    (∀ nack ∈ gap, nack.nackSn = sn ∧ nack.hasNackRange = false) ∧ (so ≠ lastSo → gap ≠ []) := by
  rw [gapNack] at h
  split at h
  · rename_i heq
    simp [← some.inj h, heq]
  · split at h
    · simp [← some.inj h]
    · cases h

lemma segmentNacks_cons {sn lastSo : Nat} {haveLast : Bool} {segm : Segment} {rest : List Segment}
    (h : segmentNacks sn lastSo haveLast (segm :: rest) = some nacks) :
    ∃ gap later, gapNack sn lastSo segm.so = some gap ∧
      segmentNacks sn segm.stop (haveLast || segm.si == .lastSegment) rest = some later ∧
      nacks = gap ++ later := by
  obtain ⟨gap, hgap, h⟩ := bind_eq_some_iff.mp (by simpa [segmentNacks] using h)
  obtain ⟨later, hlater, h⟩ := bind_eq_some_iff.mp h
  exact ⟨gap, later, hgap, hlater, (some.inj h).symm⟩

variable {segments : List Segment}

lemma segmentNacks_single {sn lastSo : Nat} {haveLast : Bool}
    (h : segmentNacks sn lastSo haveLast segments = some nacks) :
    ∀ nack ∈ nacks, nack.nackSn = sn ∧ nack.hasNackRange = false := by
  induction segments generalizing lastSo haveLast nacks with
  | nil =>
    cases haveLast <;> simp only [segmentNacks, some.injEq] at h <;> simp [← h]
  | cons segm rest ih =>
    obtain ⟨gap, later, hgap, hlater, rfl⟩ := segmentNacks_cons h
    intro nack hnack
    obtain hin | hin := mem_append.mp hnack
    · exact (gapNack_spec hgap).1 nack hin
    · exact ih hlater nack hin

lemma segmentNacks_ne_nil {sn nextByte : Nat}
    (h : segmentNacks sn nextByte false segments = some nacks)
    (hincompl : (segmentInventory nextByte segments).fullyReceived = false) : nacks ≠ [] := by
  induction segments generalizing nextByte nacks with
  | nil =>
    simp only [segmentNacks, some.injEq] at h
    simp [← h]
  | cons segm rest ih =>
    obtain ⟨gap, later, hgap, hlater, rfl⟩ := segmentNacks_cons h
    rw [segmentInventory] at hincompl
    by_cases hso : segm.so = nextByte
    · rw [if_neg (by simpa using hso)] at hincompl
      split at hincompl
      · cases hincompl
      rename_i hlast
      have hflag : (segm.si == SiField.lastSegment) = false := by simpa using hlast
      rw [hflag, Segment.stop, hso] at hlater
      simp [ih hlater hincompl]
    · simp [(gapNack_spec hgap).2 hso]

variable {cfg : RxConfig} {history : RxHistory cfg}

lemma snNacks_spec {k : Nat} {added : List Nack} (hrec : Recorded history)
    (hk : k < cfg.amWindowSize)
    (h : history.entity.snNacks ((history.nofDone + k) % cfg.mod) = some added) :
    (∀ nack ∈ added, nack.nackSn = (history.nofDone + k) % cfg.mod ∧ nack.hasNackRange = false) ∧
      (completed history.entity history.nofDone (history.nofDone + k) = false → added ≠ []) := by
  obtain ⟨h', n, htracks⟩ := hrec.tracks
  have hmod := cfg.mod_eq
  rw [snNacks, htracks.get?_eq_held (by omega) (by omega)] at h
  rw [completed]
  rcases hheld : held history.entity history.nofDone (history.nofDone + k) with _ | info
  · rw [hheld] at h
    simp [← some.inj h]
  simp only [hheld] at h
  split_ifs at h with hfull
  · simp [← some.inj h, hfull]
  have hincompl : info.fullyReceived = false := by simpa using hfull
  obtain ⟨segments, rfl⟩ := hrec.incomplete _ info hheld hincompl
  exact ⟨segmentNacks_single h, fun _ => segmentNacks_ne_nil h hincompl⟩

lemma pushSnNacks_spec {K : Nat} (hrec : Recorded history) (hK : K ≤ cfg.amWindowSize)
    (h : ((range K).map fun i => (history.entity.rxNext + i) % cfg.mod).foldlM
      history.entity.pushSnNacks [] = some nacks) :
    Reports cfg.snFieldLength history.nofDone nacks.reverse K ∧
      ∀ k < K, completed history.entity history.nofDone (history.nofDone + k) = false →
        Reported cfg.snFieldLength history.nofDone nacks k := by
  induction K generalizing nacks with
  | zero =>
    obtain rfl : [] = nacks := by simpa using h
    exact ⟨trivial, fun k hk => absurd hk (not_lt_zero k)⟩
  | succ K ih =>
    obtain ⟨h', n, htracks⟩ := hrec.tracks
    rw [range_succ, map_append, foldlM_append] at h
    obtain ⟨before, hbefore, h⟩ := bind_eq_some_iff.mp h
    obtain ⟨hreps, hrepd⟩ := ih (by omega) hbefore
    have hpush : history.entity.pushSnNacks before
        ((history.nofDone + K) % cfg.mod) = some nacks := by
      rw [htracks.rxNext_eq] at h
      simpa using h
    obtain ⟨added, hadded, rfl⟩ := map_eq_some_iff.mp hpush
    obtain ⟨hsingle, hne⟩ := snNacks_spec hrec (by omega) hadded
    have hmod := cfg.mod_eq
    have hcard : K + 1 < cfg.snFieldLength.cardinality := by
      rw [RxConfig.mod] at hmod
      omega
    obtain ⟨hreps', hkept, hnew⟩ :=
      foldl_pushNack_spec hsingle hcard (hreps.mono (le_succ K))
    refine ⟨hreps', fun k hk hopen => ?_⟩
    obtain hlt | rfl := Nat.lt_succ_iff_lt_or_eq.mp hk
    · exact hkept k (hrepd k hlt hopen)
    · exact hnew (hne hopen)

variable {report : StatusPdu}

/-- A report stays within the window, and every incomplete SDU before its ACK_SN has a NACK. -/
lemma buildStatusReport_spec (hrec : Recorded history)
    (h : history.entity.buildStatusReport = some report) :
    ∃ K ≤ cfg.amWindowSize, report.ackSn = (history.nofDone + K) % cfg.mod ∧
      Reports cfg.snFieldLength history.nofDone report.nacks.reverse K ∧
      ∀ k < K, completed history.entity history.nofDone (history.nofDone + k) = false →
        Reported cfg.snFieldLength history.nofDone report.nacks k := by
  obtain ⟨h', n, htracks⟩ := hrec.tracks
  obtain ⟨nacks, hnacks, rfl⟩ := map_eq_some_iff.mp h
  have hmod := cfg.mod_eq
  have hsize := cfg.amWindowSize_pos
  have hlimit := cfg.maxNofSnPerStatusReport_le
  have hstop : history.entity.stopSn < cfg.mod ∧
      history.entity.rxModBase history.entity.stopSn ≤ cfg.amWindowSize := by
    rw [stopSn]
    split
    · have hbase := @rxModBase_eq _ history.entity history.nofDone
        (history.nofDone + cfg.maxNofSnPerStatusReport) htracks.rxNext_eq
        (le_add_right _ _) (by omega)
      rw [htracks.rxNext_eq, mod_add_mod, hbase]
      exact ⟨mod_lt _ cfg.mod_pos, by omega⟩
    · have hh := htracks.highestStatus_le
      rw [htracks.rxHighestStatus_eq,
        rxModBase_eq htracks.rxNext_eq htracks.le_highestStatus (by omega)]
      exact ⟨mod_lt _ cfg.mod_pos, by omega⟩
  exact ⟨_, hstop.2, exists_count_of_lt htracks.rxNext_eq hstop.1,
    pushSnNacks_spec hrec hstop.2 hnacks⟩

variable {dropped : Nack} {kept : List Nack}

section

variable {maxPackedSize : Nat}

variable {nacks : List Nack}

lemma Reports.of_mem {stop : Nat} {nack : Nack} (hreps : Reports snSize r nacks stop)
    (hmem : nack ∈ nacks) : ∃ i, nack.nackSn = (r + i) % snSize.cardinality ∧ 0 < nack.nofSdus ∧
      i + nack.nofSdus ≤ stop := by
  induction nacks generalizing stop with
  | nil => cases hmem
  | cons back rest ih =>
    obtain ⟨i, hsn, hpos, hstop, hrest⟩ := hreps
    obtain rfl | hin := mem_cons.mp hmem
    · exact ⟨i, hsn, hpos, hstop⟩
    · exact ih (hrest.mono (by omega)) hin

lemma trimNacks_spec {a : Nat} (hmax : sizeofHeaderAckSn ≤ maxPackedSize)
    (hreps : Reports snSize r nacks (a + 1)) (ha : a < snSize.cardinality) :
    ∃ a' ≤ a, (trimNacks snSize maxPackedSize nacks ((r + a) % snSize.cardinality)).2 =
        (r + a') % snSize.cardinality ∧ Reports snSize r
        (trimNacks snSize maxPackedSize nacks ((r + a) % snSize.cardinality)).1 (a' + 1) ∧
      sizeofHeaderAckSn + nacksSize snSize
        (trimNacks snSize maxPackedSize nacks ((r + a) % snSize.cardinality)).1 ≤ maxPackedSize ∧
      ∀ k < a', Reported snSize r nacks k → Reported snSize r
        (trimNacks snSize maxPackedSize nacks ((r + a) % snSize.cardinality)).1 k := by
  induction nacks generalizing a with
  | nil =>
    exact ⟨a, Nat.le_refl a, rfl, trivial, hmax, fun _ _ => id⟩
  | cons back rest ih =>
    rw [trimNacks]
    split_ifs with hstop
    · obtain ⟨i, hsn, hpos, hstop, hrest⟩ := hreps
      rw [hsn]
      obtain ⟨a', hle, hack, hreps', hsize, hkept⟩ := @ih i hrest (by omega)
      refine ⟨a', by omega, hack, hreps', hsize, fun k hk hrepd => ?_⟩
      obtain ⟨nack, hmem, i', hsn', hle', hlt'⟩ := hrepd
      obtain rfl | hin := mem_cons.mp hmem
      · -- the dropped NACK starts behind the new ACK_SN
        have heq := @eq_of_mod_eq_of_window snSize.cardinality r (r + i) (r + i') (by omega)
          (by omega) (by omega) (by omega) (hsn.symm.trans hsn')
        omega
      · exact hkept k hk ⟨nack, hin, i', hsn', hle', hlt'⟩
    · rw [not_or] at hstop
      exact ⟨a, Nat.le_refl a, rfl, hreps, Nat.le_of_not_lt hstop.1, fun _ _ => id⟩

lemma trim_spec {K : Nat} (hmax : sizeofHeaderAckSn ≤ maxPackedSize)
    (hack : report.ackSn = (r + K) % snSize.cardinality)
    (hreps : Reports snSize r report.nacks.reverse K) (hK : K < snSize.cardinality) :
    ∃ trimmed a, report.trim snSize maxPackedSize = some trimmed ∧ a ≤ K ∧
      trimmed.ackSn = (r + a) % snSize.cardinality ∧ trimmed.packedSize snSize ≤ maxPackedSize ∧
      Reports snSize r trimmed.nacks.reverse (a + 1) ∧
      ∀ k < a, Reported snSize r report.nacks k → Reported snSize r trimmed.nacks k := by
  rw [StatusPdu.trim]
  split
  · rename_i hfits
    exact ⟨report, K, rfl, Nat.le_refl K, hack, hfits, hreps.mono (Nat.le_succ K), fun _ _ => id⟩
  rw [if_neg (by omega), hack]
  obtain ⟨a, hle, hack', hreps', hsize, hkept⟩ :=
    trimNacks_spec hmax (hreps.mono (Nat.le_succ K)) hK
  refine ⟨_, a, rfl, hle, hack', ?_, ?_, ?_⟩
  · simpa [StatusPdu.packedSize, nacksSize] using hsize
  · simpa using hreps'
  intro k hk hrepd
  obtain ⟨nack, hmem, hrest⟩ := hkept k hk (by
    obtain ⟨nack, hmem, hrest⟩ := hrepd
    exact ⟨nack, by simpa using hmem, hrest⟩)
  exact ⟨nack, by simpa using hmem, hrest⟩

lemma nacksSize_cons (nack : Nack) (rest : List Nack) :
    nacksSize snSize (nack :: rest) = nackSize snSize nack + nacksSize snSize rest := by
  rw [nacksSize, map_cons, sum_cons, nacksSize]

lemma nacksSize_append (front back : List Nack) :
    nacksSize snSize (front ++ back) = nacksSize snSize front + nacksSize snSize back := by
  rw [nacksSize, map_append, sum_append_nat, nacksSize, nacksSize]

lemma nacksSize_reverse : nacksSize snSize nacks.reverse = nacksSize snSize nacks := by
  rw [nacksSize, map_reverse, sum_reverse, nacksSize]

/-- The NACKs `kept` fit into the size, and together with the next one they do not. -/
structure CutAt (snSize : SnSize) (maxPackedSize : Nat) (nacks kept : List Nack)
    (dropped : Nack) : Prop where
  eq_append : ∃ more, nacks = kept ++ dropped :: more
  fits : sizeofHeaderAckSn + nacksSize snSize kept ≤ maxPackedSize
  exceeds : maxPackedSize < sizeofHeaderAckSn + nacksSize snSize kept + nackSize snSize dropped

lemma CutAt.exceeds_all (hcut : CutAt snSize maxPackedSize nacks kept dropped) :
    maxPackedSize < sizeofHeaderAckSn + nacksSize snSize nacks := by
  have hexceeds := hcut.exceeds
  obtain ⟨more, rfl⟩ := hcut.eq_append
  rw [nacksSize_append, nacksSize_cons]
  omega

lemma exists_cutAt (hmax : sizeofHeaderAckSn ≤ maxPackedSize)
    (hexceeds : maxPackedSize < sizeofHeaderAckSn + nacksSize snSize nacks) :
    ∃ kept dropped, CutAt snSize maxPackedSize nacks kept dropped := by
  induction nacks generalizing maxPackedSize with
  | nil => exact absurd hexceeds (Nat.not_lt.mpr hmax)
  | cons nack rest ih =>
    rw [nacksSize_cons] at hexceeds
    obtain hlt | hle := Nat.lt_or_ge maxPackedSize (sizeofHeaderAckSn + nackSize snSize nack)
    · exact ⟨[], nack, ⟨rest, rfl⟩, hmax, hlt⟩
    obtain ⟨kept, dropped, ⟨more, rfl⟩, hfits, hmore⟩ :=
      @ih (maxPackedSize - nackSize snSize nack) (by omega) (by omega)
    refine ⟨nack :: kept, dropped, ⟨more, rfl⟩, ?_, ?_⟩
    · rw [nacksSize_cons]
      omega
    · rw [nacksSize_cons]
      omega

/-- Once the size is right, only the NACKs that start at the ACK_SN are dropped. -/
lemma trimNacks_of_fits {ackSn : Nat}
    (hfits : sizeofHeaderAckSn + nacksSize snSize nacks ≤ maxPackedSize) :
    trimNacks snSize maxPackedSize nacks ackSn =
      (nacks.dropWhile fun nack => nack.nackSn = ackSn, ackSn) := by
  induction nacks with
  | nil => rfl
  | cons back rest ih =>
    have hrest : sizeofHeaderAckSn + nacksSize snSize rest ≤ maxPackedSize := by
      rw [nacksSize_cons] at hfits
      omega
    rw [trimNacks, dropWhile_cons]
    by_cases hsn : back.nackSn = ackSn
    · rw [if_pos (.inr hsn), if_pos (by simpa using hsn), hsn, ih hrest]
    · rw [if_neg (by omega), if_neg (by simpa using hsn)]

lemma CutAt.trimNacks_reverse (hcut : CutAt snSize maxPackedSize nacks kept dropped) (ackSn : Nat)
    : trimNacks snSize maxPackedSize nacks.reverse ackSn =
      (kept.reverse.dropWhile fun nack => nack.nackSn = dropped.nackSn, dropped.nackSn) := by
  have hexceeds := hcut.exceeds
  obtain ⟨more, rfl⟩ := hcut.eq_append
  -- from the back on, the size alone has all NACKs dropped up to the cut
  have hbehind (behind : List Nack) (ackSn : Nat) :
      trimNacks snSize maxPackedSize (behind ++ dropped :: kept.reverse) ackSn =
        trimNacks snSize maxPackedSize kept.reverse dropped.nackSn := by
    induction behind generalizing ackSn with
    | nil =>
      refine if_pos (.inl ?_)
      rw [nacksSize_cons, nacksSize_reverse]
      omega
    | cons back rest ih =>
      rw [cons_append, trimNacks, ← cons_append]
      refine (if_pos (.inl ?_)).trans (ih back.nackSn)
      rw [nacksSize_append, nacksSize_cons dropped, nacksSize_reverse]
      omega
  rw [reverse_append, reverse_cons, append_assoc, singleton_append, hbehind,
    trimNacks_of_fits (by rw [nacksSize_reverse]; exact hcut.fits)]

/-- What trimming makes of a report that does not fit. -/
lemma CutAt.trim_eq (hmax : sizeofHeaderAckSn ≤ maxPackedSize)
    (hcut : CutAt snSize maxPackedSize report.nacks kept dropped) :
    report.trim snSize maxPackedSize = some {
      ackSn := dropped.nackSn
      nacks := (kept.reverse.dropWhile fun nack => nack.nackSn = dropped.nackSn).reverse } := by
  have hexceeds := hcut.exceeds_all
  rw [StatusPdu.trim, if_neg (by rw [StatusPdu.packedSize]; omega), if_neg (by omega),
    hcut.trimNacks_reverse]

lemma reports_of_not_covers {a : Nat} (hreps : Reports snSize r nacks (a + 1))
    (hlast : ∀ last ∈ nacks.head?, ¬NackCovers snSize last ((r + a) % snSize.cardinality)) :
    Reports snSize r nacks a := by
  cases nacks with
  | nil => trivial
  | cons last rest =>
    obtain ⟨i, hsn, hpos, hstop, hrest⟩ := hreps
    refine ⟨i, hsn, hpos, ?_, hrest⟩
    by_contra hgt
    refine hlast last rfl ⟨last.nofSdus - 1, by omega, ?_⟩
    rw [hsn, mod_add_mod]
    congr 1
    omega

end

end ProtoRu.Rlc
