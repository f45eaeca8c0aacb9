import TickTock.Page.Allocation

/-! # The allocation law

Compaction packs a header right behind the previous one, which must never grow again: the
windows stay disjoint in runs that add no point to a page once `shrink_to_fit` cut it. -/

namespace TickTock

def Op.addsTo : Op → Option ℕ
  | .addDataPoint slot _ _ => some slot
  | _ => none

namespace Store

/-- No point is offered to a page after `PageInfo::shrink_to_fit` cut it; `shrunk` lists the
pages cut before the run. -/
def Sealed : List ℕ → List Op → Prop
  | _, [] => True
  | shrunk, op :: ops =>
    (∀ slot ∈ op.addsTo, slot ∉ shrunk) ∧ Sealed (op.shrunkSlot.toList ++ shrunk) ops

instance decSealed : (shrunk : List ℕ) → (ops : List Op) → Decidable (Sealed shrunk ops)
  | _, [] => isTrue trivial
  | shrunk, op :: ops =>
    haveI := decSealed (op.shrunkSlot.toList ++ shrunk) ops
    inferInstanceAs (Decidable (_ ∧ _))

variable {L : Layout}

/-- Headers that share a page follow each other, and a page not shrunk yet (outside
`shrunk`) reaches to the end of its page. -/
structure Packed (L : Layout) (shrunk : List ℕ) (pm : PageManager) : Prop where
  packed : ∀ i j, i < j → j < pm.headerIndex →
    (pm.pageInfo i).pageIndex = (pm.pageInfo j).pageIndex →
    (pm.pageInfo i).offset + (pm.pageInfo i).size ≤ (pm.pageInfo j).offset
  unshrunk : ∀ i < pm.headerIndex, i ∉ shrunk →
    (pm.pageInfo i).offset + (pm.pageInfo i).size = L.pageSize

/-- The packing, and shrunk pages that would not grow if shrunk again. -/
structure PackInv (L : Layout) (shrunk : List ℕ) (s : Store) extends Packed L shrunk s.pm :
    Prop where
  settled : ∀ i ∈ shrunk, ∀ pi, s.pages i = some pi →
    (PageInfo.shrunkRecord s.pm pi).size ≤ (s.pm.pageInfo i).size

theorem Packed.mono {S S' : List ℕ} {pm : PageManager} (hp : Packed L S pm) (h : S ⊆ S') :
    Packed L S' pm :=
  ⟨hp.packed, fun i hi hs => hp.unshrunk i hi fun h' => hs (h h')⟩

theorem Packed.setPageInfo {S S' : List ℕ} {pm : PageManager} (hp : Packed L S pm)
    (hS : S ⊆ S') {slot : ℕ} {r : PageInfoOnDisk}
    (hpage : r.pageIndex = (pm.pageInfo slot).pageIndex)
    (hoff : r.offset = (pm.pageInfo slot).offset) (hsize : r.size ≤ (pm.pageInfo slot).size)
    (hend : slot ∉ S' → r.offset + r.size = L.pageSize) :
    Packed L S' (pm.setPageInfo slot r) := by
  have hpi := PageManager.setPageInfo_pageInfo pm slot r
  refine ⟨fun i j hij hj heq => ?_, fun i hi hs => ?_⟩
  · simp only [hpi, PageManager.setPageInfo_headerIndex] at heq hj ⊢
    have := hp.packed i j hij hj
    split_ifs at heq ⊢ <;> simp_all
    omega
  · simp only [hpi, PageManager.setPageInfo_headerIndex] at hi ⊢
    split_ifs with h
    · subst h; exact hend hs
    · exact hp.unshrunk i hi fun h' => hs (hS h')

theorem shrunkRecord_size_le_of_end {s : Store} (hs : AllocInv L s) {i : ℕ} {pi : PageInfo}
    (hpi : s.pages i = some pi)
    (hend : (s.pm.pageInfo i).offset + (s.pm.pageInfo i).size = L.pageSize) :
    (PageInfo.shrunkRecord s.pm pi).size ≤ (s.pm.pageInfo i).size := by
  have := persistedRecord_saved hs hpi
  rw [PageInfo.shrunkRecord_size]; omega

/-- No page of the store would grow if shrunk now. -/
theorem PackInv.shrunkRecord_size_le {S : List ℕ} {s : Store} (hp : PackInv L S s)
    (hs : AllocInv L s) {i : ℕ} {pi : PageInfo} (hpi : s.pages i = some pi) :
    (PageInfo.shrunkRecord s.pm pi).size ≤ (s.pm.pageInfo i).size := by
  by_cases hi : i ∈ S
  · exact hp.settled i hi pi hpi
  · exact shrunkRecord_size_le_of_end hs hpi (hp.unshrunk i (hs.views i pi hpi).2 hi)

/-- A shrunk page whose record and file version a step leaves alone stays settled. -/
theorem PackInv.settled_of_frame {S : List ℕ} {s : Store} (hp : PackInv L S s) (hs : CountInv L s)
    {pm' : PageManager} {i : ℕ} {pi : PageInfo} (hi : i ∈ S) (h : s.pages i = some pi)
    (hv : pm'.compressorVersion = s.pm.compressorVersion) (hr : pm'.pageInfo i = s.pm.pageInfo i) :
    (PageInfo.shrunkRecord pm' pi).size ≤ (pm'.pageInfo i).size := by
  rw [PageInfo.shrunkRecord_size_congr pi hv (by rw [(hs.views i pi h).1, hr]), hr]
  exact hp.settled i hi pi h

theorem PackInv.append {S : List ℕ} {s : Store} (hp : PackInv L S s) (hs : CountInv L s)
    {r : PageInfoOnDisk} {pi : PageInfo} (hs' : AllocInv L (s.appendPage r pi))
    (hend : r.offset + r.size = L.pageSize)
    (hbehind : ∀ i < s.pm.headerIndex, (s.pm.pageInfo i).pageIndex = r.pageIndex →
      (s.pm.pageInfo i).offset + (s.pm.pageInfo i).size ≤ r.offset) :
    PackInv L S (s.appendPage r pi) := by
  refine ⟨⟨fun i j hij hj heq => ?_, fun i hi _ => ?_⟩, fun i hi pi' h => ?_⟩
  · simp only [appendPage] at hj
    rw [appendPage_pageInfo, appendPage_pageInfo] at heq ⊢
    rw [if_neg (by omega : i ≠ s.pm.headerIndex)] at heq ⊢
    split_ifs at heq ⊢ with hjH
    · exact hbehind i (by omega) heq
    · exact hp.packed i j hij (by omega) heq
  · simp only [appendPage] at hi
    rw [appendPage_pageInfo]
    split_ifs with hiH
    · exact hend
    · exact hp.unshrunk i (by omega) ‹_›
  · by_cases hiH : i = s.pm.headerIndex
    · refine shrunkRecord_size_le_of_end hs' h ?_
      rw [appendPage_pageInfo, if_pos hiH]; exact hend
    · simp only [appendPage, Function.update_noteq hiH] at h
      exact hp.settled_of_frame hs hi h rfl (by rw [appendPage_pageInfo, if_neg hiH])

/-- Page-operation step: a record rewritten in place, at most shrinking, keeps the packing. -/
theorem PackInv.onPage {S S' : List ℕ} {s : Store} (hp : PackInv L S s) (hs : CountInv L s)
    (hS : S ⊆ S') {slot : ℕ} (hnew : ∀ i ∈ S', i ≠ slot → i ∈ S)
    {f : PageManager → PageInfo → PageManager × PageInfo}
    (hf : ∀ pi, s.pages slot = some pi → ∃ r, (f s.pm pi).1 = s.pm.setPageInfo slot r ∧
      r.pageIndex = (s.pm.pageInfo slot).pageIndex ∧ r.offset = (s.pm.pageInfo slot).offset ∧
      r.size ≤ (s.pm.pageInfo slot).size ∧ (slot ∉ S' → r.offset + r.size = L.pageSize) ∧
      (slot ∈ S' → (PageInfo.shrunkRecord (f s.pm pi).1 (f s.pm pi).2).size ≤ r.size)) :
    PackInv L S' (s.onPage slot f) := by
  unfold Store.onPage; split
  · rename_i pi hpi
    obtain ⟨r, hpm, hpage, hoff, hsize, hend, hgrow⟩ := hf pi hpi
    refine ⟨by rw [hpm]; exact hp.toPacked.setPageInfo hS hpage hoff hsize hend,
      fun i hi pi' h => ?_⟩
    by_cases his : i = slot
    · subst his
      simp only [Function.update_same, Option.some.injEq] at h
      subst h
      simpa [hpm] using hgrow hi
    · simp only [Function.update_noteq his] at h
      exact hp.settled_of_frame hs (hnew i hi his) h (by rw [hpm]; rfl)
        (by rw [hpm, PageManager.setPageInfo_pageInfo_of_ne _ _ his])
  · rename_i hnone
    exact ⟨hp.toPacked.mono hS, fun i hi pi h =>
      hp.settled i (hnew i hi fun e => by rw [e, hnone] at h; cases h) pi h⟩

theorem compactionRecord_behind {S : List ℕ} {s : Store} (hs : AllocInv L s)
    (hp : Packed L S s.pm) (i : ℕ) (hi : i < s.pm.headerIndex)
    (heq : (s.pm.pageInfo i).pageIndex =
      (PageManager.compactionRecord L s.pm s.pm.headerIndex s.pm.pageIndex).pageIndex) :
    (s.pm.pageInfo i).offset + (s.pm.pageInfo i).size ≤
      (PageManager.compactionRecord L s.pm s.pm.headerIndex s.pm.pageIndex).offset := by
  have hlt := (hs.placed i hi).lt_pageIndex
  unfold PageManager.compactionRecord at heq ⊢
  split at heq
  · rename_i h0
    have hprev := hs.records _ (Nat.sub_lt h0 Nat.one_pos)
    have hmod : ((s.pm.pageInfo (s.pm.headerIndex - 1)).offset +
        (s.pm.pageInfo (s.pm.headerIndex - 1)).size) % 2 ^ 16 =
        (s.pm.pageInfo (s.pm.headerIndex - 1)).offset +
          (s.pm.pageInfo (s.pm.headerIndex - 1)).size :=
      Nat.mod_eq_of_lt (lt_of_le_of_lt hprev.within L.pageSize_lt)
    have hle := hs.mono i (s.pm.headerIndex - 1) (by omega) (by omega)
    simp only [h0, if_true] at heq ⊢
    split at heq
    · rename_i h12
      rw [hmod] at h12
      simp only [hmod, h12, if_true]
      by_cases hiH : i = s.pm.headerIndex - 1
      · rw [hiH]
      · have := hp.packed i _ (by omega) (by omega) heq
        omega
    · simp [PageManager.freshRecord] at heq; omega
  · simp [PageManager.freshRecord] at heq; omega

theorem PackInv.onPage_persist {S : List ℕ} {s : Store} (hp : PackInv L S s) (hs : AllocInv L s)
    {slot : ℕ} {f : PageManager → PageInfo → PageManager × PageInfo}
    (hf : ∀ pm pi, (f pm pi).1 = PageInfo.persist pm pi ∧
      (PageInfo.shrunkRecord (f pm pi).1 (f pm pi).2).size = (PageInfo.shrunkRecord pm pi).size) :
    PackInv L S (s.onPage slot f) := by
  refine hp.onPage hs.toCountInv (List.Subset.refl _) (fun i hi _ => hi) fun pi hpi => ?_
  have hv := (hs.views slot pi hpi).1
  refine ⟨_, by rw [(hf _ _).1, PageInfo.persist_eq, hv], by simp [hv], by simp [hv],
    by simp [hv], fun hn => by simpa [hv] using hp.unshrunk slot (hs.views slot pi hpi).2 hn,
    fun hin => ?_⟩
  rw [(hf _ _).2, PageInfo.persistedRecord_size, hv]
  exact hp.settled slot hin pi hpi

theorem PackInv.step {S : List ℕ} {s : Store} (hp : PackInv L S s) (hs : AllocInv L s)
    {op : Op} (hadd : ∀ slot ∈ op.addsTo, slot ∉ S) :
    PackInv L (op.shrunkSlot.toList ++ S) (step L s op) := by
  have hview : ∀ {slot pi}, s.pages slot = some pi → pi.slot = slot := fun h => (hs.views _ _ h).1
  cases op with
  | getFreePageOnDisk ooo =>
    have hs' := hs.getFreePageOnDisk ooo
    obtain h | ⟨-, -, h⟩ := step_getFreePageOnDisk L s ooo
    · rw [h]; exact hp
    rw [h] at hs' ⊢
    refine hp.append hs.toCountInv hs' (by simp [PageManager.freshRecord]) fun i hi heq => ?_
    have := (hs.placed i hi).lt_pageIndex
    simp [PageManager.freshRecord] at heq; omega
  | getFreePageForCompaction =>
    have hs' := hs.getFreePageForCompaction
    obtain h | ⟨-, -, h⟩ := step_getFreePageForCompaction L s
    · rw [h]; exact hp
    rw [h] at hs' ⊢
    exact hp.append hs.toCountInv hs' (compactionRecord_spec hs.toCountInv).2.2.2.1
      (compactionRecord_behind hs hp.toPacked)
  | addDataPoint slot t o =>
    have hslot : slot ∉ S := hadd slot rfl
    show PackInv L S (s.onPage slot fun pm pi => (pm, (pi.addDataPoint t o).1))
    refine hp.onPage hs.toCountInv (List.Subset.refl _) (fun i hi _ => hi) fun pi hpi =>
      ⟨s.pm.pageInfo slot, (PageManager.setPageInfo_pageInfo_self_eq _ _).symm, rfl, rfl, le_rfl,
        fun _ => hp.unshrunk slot (hs.views slot pi hpi).2 hslot, fun h => absurd h hslot⟩
  | persist slot =>
    exact hp.onPage_persist (f := fun pm pi => (PageInfo.persist pm pi, pi)) hs fun pm pi =>
      ⟨rfl, PageInfo.shrunkRecord_size_persist pm pi⟩
  | flush slot =>
    exact hp.onPage_persist (f := PageInfo.flush) hs fun pm pi =>
      ⟨PageInfo.flush_fst pm pi, PageInfo.shrunkRecord_size_flush pm pi⟩
  | shrinkPage slot =>
    show PackInv L (slot :: S) (s.onPage slot PageInfo.shrinkToFit)
    refine hp.onPage hs.toCountInv (List.subset_cons_self _ _)
      (fun i hi hne => (List.mem_cons.1 hi).resolve_left hne) fun pi hpi =>
      ⟨_, by rw [PageInfo.shrinkToFit_fst, hview hpi], by simp [hview hpi], by simp [hview hpi],
        by simpa [hview hpi] using hp.shrunkRecord_size_le hs hpi,
        fun hn => absurd (List.mem_cons_self _ _) hn,
        fun _ => (PageInfo.shrunkRecord_size_shrinkToFit _ _).le⟩
  | shrinkToFit => exact ⟨⟨hp.packed, hp.unshrunk⟩, hp.settled⟩

theorem PackInv.run {S : List ℕ} {s : Store} (hp : PackInv L S s) (hs : AllocInv L s)
    {ops : List Op} (hfit : Fitting L s ops) (hsealed : Sealed S ops) :
    ∃ S', PackInv L S' (run L s ops) := by
  induction ops generalizing s S with
  | nil => exact ⟨S, hp⟩
  | cons op ops ih => exact ih (hp.step hs hsealed.1) (hs.step hfit.1) hfit.2 hsealed.2

theorem packInv_create (range : TimeRange) (version pageCount : ℕ) :
    PackInv L [] (create L range version pageCount) :=
  ⟨⟨fun _ _ _ h => absurd h (Nat.not_lt_zero _), fun _ h => absurd h (Nat.not_lt_zero _)⟩,
    fun _ h => absurd h (List.not_mem_nil _)⟩

theorem window_end_le {S : List ℕ} {s : Store} (hs : AllocInv L s) (hp : Packed L S s.pm)
    {i j : ℕ} (hij : i < j) (hj : j < s.pm.headerIndex) :
    (s.pm.pageInfo i).pageIndex * L.pageSize + (s.pm.pageInfo i).offset + (s.pm.pageInfo i).size ≤
      (s.pm.pageInfo j).pageIndex * L.pageSize + (s.pm.pageInfo j).offset := by
  have hwithin := (hs.records i (by omega)).within
  rcases Nat.lt_or_eq_of_le (hs.mono i j hij.le hj) with hlt | heq
  · have := Nat.mul_le_mul_right L.pageSize (Nat.succ_le_of_lt hlt)
    rw [Nat.succ_mul] at this
    omega
  · have := hp.packed i j hij hj heq
    rw [heq]; omega

/-- Every header lies on a data page inside the file, the windows of distinct headers are
disjoint, and none reaches into the header and page-info table. -/
structure AllocationLaw (L : Layout) (pageCount : ℕ) (pm : PageManager) : Prop where
  placed : ∀ j < pm.headerIndex, L.calcFirstPageInfoIndex pageCount ≤ (pm.pageInfo j).pageIndex ∧
    (pm.pageInfo j).pageIndex < pm.actualPgCnt ∧
    (pm.pageInfo j).offset + (pm.pageInfo j).size ≤ L.pageSize
  disjoint : ∀ i < pm.headerIndex, ∀ j < pm.headerIndex, i ≠ j → ∀ b,
    ¬ ((pm.pageInfo i).InWindow L b ∧ (pm.pageInfo j).InWindow L b)
  clear_of_table : ∀ j < pm.headerIndex, ∀ b, (pm.pageInfo j).InWindow L b →
    L.headerSize + pageCount * L.infoSize ≤ b

theorem allocationLaw_of_inv {S : List ℕ} {s : Store} (hs : AllocInv L s)
    (hp : Packed L S s.pm) : AllocationLaw L s.pm.pageCount s.pm := by
  refine ⟨fun j hj => ?_, fun i hi j hj hne b ⟨hbi, hbj⟩ => ?_, fun j hj b hb => ?_⟩
  · have hp := hs.placed j hj
    exact ⟨hp.first_le, hp.lt_actualPgCnt, (hs.records j hj).within⟩
  · unfold PageInfoOnDisk.InWindow at hbi hbj
    rcases Nat.lt_or_gt_of_ne hne with h | h
    · have := window_end_le hs hp h hj; omega
    · have := window_end_le hs hp h hi; omega
  · have h1 := L.table_le_calcFirstPageInfoIndex s.pm.pageCount
    have h2 := Nat.mul_le_mul_right L.pageSize (hs.placed j hj).first_le
    have h3 := hb.1
    omega

/-- The allocation law holds after every fitting sealed run, and each window still holds what its
compressor has written. -/
theorem allocation_law (range : TimeRange) (version pageCount : ℕ) (ops : List Op)
    (hfit : Fitting L (create L range version pageCount) ops) (hsealed : Sealed [] ops) :
    let s := run L (create L range version pageCount) ops
    AllocationLaw L pageCount s.pm ∧
      ∀ i pi, s.pages i = some pi → (PageInfo.shrunkRecord s.pm pi).size ≤ (s.pm.pageInfo i).size := by
  have hs := (allocInv_create range version pageCount).run hfit
  obtain ⟨S, hp⟩ := (packInv_create range version pageCount).run
    (allocInv_create range version pageCount) hfit hsealed
  have h := allocationLaw_of_inv hs hp.toPacked
  rw [(run_sameFile _ _ _).pageCount] at h
  exact ⟨h, fun i pi hpi => hp.shrunkRecord_size_le hs hpi⟩

theorem allocation_law_packed_pair :
    Fitting specLayout (create specLayout ⟨0, 3600⟩ 1 4)
        [.getFreePageForCompaction, .addDataPoint 0 0 (some (⟨100, 0⟩, false)), .shrinkPage 0,
          .getFreePageForCompaction] ∧
      Sealed [] [.getFreePageForCompaction, .addDataPoint 0 0 (some (⟨100, 0⟩, false)),
          .shrinkPage 0, .getFreePageForCompaction] ∧
      let s := run specLayout (create specLayout ⟨0, 3600⟩ 1 4)
        [.getFreePageForCompaction, .addDataPoint 0 0 (some (⟨100, 0⟩, false)), .shrinkPage 0,
          .getFreePageForCompaction]
      AllocationLaw specLayout 4 s.pm ∧
        ∀ i pi, s.pages i = some pi →
          (PageInfo.shrunkRecord s.pm pi).size ≤ (s.pm.pageInfo i).size :=
  ⟨by decide, by decide, allocation_law _ _ _ _ (by decide) (by decide)⟩

/-- A point added after `PageInfo::shrink_to_fit` moves the live compressor to byte 200 of a page
cut at 100, over the header packed behind it; a second shrink grows the window over it. -/
theorem allocation_law_fails_after_second_shrink :
    Fitting specLayout (create specLayout ⟨0, 3600⟩ 1 4)
        [.getFreePageForCompaction, .addDataPoint 0 0 (some (⟨100, 0⟩, false)), .shrinkPage 0,
          .getFreePageForCompaction, .addDataPoint 0 1 (some (⟨200, 0⟩, false)), .shrinkPage 0] ∧
      let s := run specLayout (create specLayout ⟨0, 3600⟩ 1 4)
        [.getFreePageForCompaction, .addDataPoint 0 0 (some (⟨100, 0⟩, false)), .shrinkPage 0,
          .getFreePageForCompaction, .addDataPoint 0 1 (some (⟨200, 0⟩, false))]
      (s.pages 0).map (fun pi => (PageInfo.shrunkRecord s.pm pi).size) = some 200 ∧
        (s.pm.pageInfo 0).size = 100 ∧
        (s.pm.pageInfo 1).pageIndex = (s.pm.pageInfo 0).pageIndex ∧ (s.pm.pageInfo 1).offset = 100 ∧
        ¬ AllocationLaw specLayout 4 (step specLayout s (.shrinkPage 0)).pm :=
  ⟨by decide, by decide, by decide, by decide, by decide,
    fun h => h.disjoint 0 (by decide) 1 (by decide) (by decide) 4246 (by decide)⟩

end Store

end TickTock
