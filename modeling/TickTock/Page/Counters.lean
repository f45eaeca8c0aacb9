import TickTock.Page.Store

/-! # Counters and placement

What every run keeps, whatever its compressors write. Compaction bumps `page_index` without a
new page, so after `shrink_to_fit` `persist` can sync more than `total_size`. -/

namespace TickTock

namespace Store

variable (L : Layout)

/-- An allocated record's place: a data page before both bump pointers, an offset inside it. -/
structure Placed (pm : PageManager) (h : PageInfoOnDisk) : Prop where
  first_le : L.calcFirstPageInfoIndex pm.pageCount ≤ h.pageIndex
  lt_pageIndex : h.pageIndex < pm.pageIndex
  lt_actualPgCnt : h.pageIndex < pm.actualPgCnt
  offset_lt : h.offset < L.pageSize

/-- The invariant of every run from a new file that holds whatever the compressors write. -/
structure CountInv (s : Store) : Prop where
  headerIndex_le : s.pm.headerIndex ≤ s.pm.pageCount
  first_le : L.calcFirstPageInfoIndex s.pm.pageCount ≤ s.pm.pageIndex
  open_actualPgCnt : s.pm.compacted = false → s.pm.actualPgCnt = s.pm.pageCount
  open_totalSize : s.pm.compacted = false → s.pm.totalSize = s.pm.pageCount * L.pageSize
  pageIndex_le : s.pm.pageIndex ≤ max (L.calcFirstPageInfoIndex s.pm.pageCount) s.pm.pageCount
  compacted_le : s.pm.compacted = true → s.pm.actualPgCnt ≤ s.pm.pageIndex
  placed : ∀ i < s.pm.headerIndex, Placed L s.pm (s.pm.pageInfo i)
  mono : ∀ i j, i ≤ j → j < s.pm.headerIndex →
    (s.pm.pageInfo i).pageIndex ≤ (s.pm.pageInfo j).pageIndex
  unused : ∀ i, s.pm.headerIndex ≤ i → s.pm.pageInfo i = PageInfoOnDisk.empty
  views : ∀ i pi, s.pages i = some pi → pi.slot = i ∧ i < s.pm.headerIndex

variable {L}

theorem countInv_create (range : TimeRange) (version pageCount : ℕ) :
    CountInv L (create L range version pageCount) where
  headerIndex_le := Nat.zero_le _
  first_le := le_rfl
  open_actualPgCnt _ := rfl
  open_totalSize _ := rfl
  pageIndex_le := le_max_left _ _
  compacted_le h := by simp [create, PageManager.create] at h
  placed _ h := absurd h (Nat.not_lt_zero _)
  mono _ _ _ h := absurd h (Nat.not_lt_zero _)
  unused _ _ := rfl
  views _ _ h := by simp [create] at h

theorem CountInv.open_of_room {s : Store} (hs : CountInv L s)
    (hP : s.pm.pageIndex < s.pm.actualPgCnt) : s.pm.compacted = false := by
  cases h : s.pm.compacted
  · rfl
  · have := hs.compacted_le h; omega

theorem CountInv.append {s : Store} (hs : CountInv L s)
    (hP : s.pm.pageIndex < s.pm.actualPgCnt) (hH : s.pm.headerIndex < s.pm.pageCount)
    {r : PageInfoOnDisk} {pi : PageInfo}
    (hfirst : L.calcFirstPageInfoIndex s.pm.pageCount ≤ r.pageIndex)
    (hle : r.pageIndex ≤ s.pm.pageIndex) (hoff : r.offset < L.pageSize)
    (hmono : ∀ i < s.pm.headerIndex, (s.pm.pageInfo i).pageIndex ≤ r.pageIndex)
    (hslot : pi.slot = s.pm.headerIndex) :
    CountInv L (s.appendPage r pi) := by
  have hopen := hs.open_of_room hP
  refine ⟨by simp [appendPage]; omega, by simp [appendPage]; have := hs.first_le; omega,
    fun h => by simpa [appendPage] using hs.open_actualPgCnt h,
    fun h => by simpa [appendPage] using hs.open_totalSize h,
    by have := hs.open_actualPgCnt hopen; simp [appendPage]; omega,
    fun h => by simp [appendPage, hopen] at h,
    fun i hi => ?_, fun i j hij hj => ?_, fun i hi => ?_, fun i pi' h => ?_⟩
  · simp only [appendPage] at hi
    rw [appendPage_pageInfo]
    split
    · exact ⟨by simpa [appendPage] using hfirst, by simp [appendPage]; omega,
        by simp [appendPage]; omega, hoff⟩
    · have hp := hs.placed i (by omega)
      exact ⟨by simpa [appendPage] using hp.first_le,
        by simp [appendPage]; have := hp.lt_pageIndex; omega,
        by simpa [appendPage] using hp.lt_actualPgCnt, hp.offset_lt⟩
  · simp only [appendPage] at hj
    rw [appendPage_pageInfo, appendPage_pageInfo]
    by_cases hjH : j = s.pm.headerIndex
    · by_cases hiH : i = s.pm.headerIndex
      · simp [hiH, hjH]
      · simpa [hiH, hjH] using hmono i (by omega)
    · simp only [hjH, if_false, show i ≠ s.pm.headerIndex by omega]
      exact hs.mono i j hij (by omega)
  · simp only [appendPage] at hi
    rw [appendPage_pageInfo, if_neg (by omega)]
    exact hs.unused i (by omega)
  · simp only [appendPage] at h
    by_cases hiH : i = s.pm.headerIndex
    · subst hiH
      simp only [Function.update_same, Option.some.injEq] at h
      subst h
      exact ⟨hslot, by simp [appendPage]⟩
    · rw [Function.update_noteq hiH] at h
      have hv := hs.views i pi' h
      exact ⟨hv.1, by simp [appendPage]; omega⟩

/-- The compaction allocator's record: on the previous header's page or the next one, reaching
to the end of its page. -/
theorem compactionRecord_spec {s : Store} (hs : CountInv L s) :
    let r := PageManager.compactionRecord L s.pm s.pm.headerIndex s.pm.pageIndex
    L.calcFirstPageInfoIndex s.pm.pageCount ≤ r.pageIndex ∧ r.pageIndex ≤ s.pm.pageIndex ∧
      r.offset < L.pageSize ∧ r.offset + r.size = L.pageSize ∧ r.cursor = 0 ∧ r.start = 0 ∧
      ∀ i < s.pm.headerIndex, (s.pm.pageInfo i).pageIndex ≤ r.pageIndex := by
  have hps := L.one_lt_pageSize
  unfold PageManager.compactionRecord
  split
  · rename_i h0
    have hprev := hs.placed _ (Nat.sub_lt h0 Nat.one_pos)
    have hle : ∀ i < s.pm.headerIndex, (s.pm.pageInfo i).pageIndex ≤
        (s.pm.pageInfo (s.pm.headerIndex - 1)).pageIndex := fun i hi =>
      hs.mono _ _ (by omega) (by omega)
    dsimp only
    split
    · refine ⟨hprev.first_le, hprev.lt_pageIndex.le, ?_, ?_, rfl, rfl, hle⟩ <;> dsimp only <;> omega
    · exact ⟨by have := hprev.first_le; simp [PageManager.freshRecord]; omega,
        by simpa [PageManager.freshRecord] using hprev.lt_pageIndex,
        by simp [PageManager.freshRecord]; omega, by simp [PageManager.freshRecord], rfl, rfl,
        fun i hi => by simpa [PageManager.freshRecord] using (hle i hi).trans (Nat.le_succ _)⟩
  · exact ⟨hs.first_le, le_rfl, by simp [PageManager.freshRecord]; omega,
      by simp [PageManager.freshRecord], rfl, rfl, fun i hi => (hs.placed i hi).lt_pageIndex.le⟩

theorem CountInv.getFreePageOnDisk {s : Store} (hs : CountInv L s) (ooo : Bool) :
    CountInv L (step L s (.getFreePageOnDisk ooo)) := by
  obtain h | ⟨hP, hH, h⟩ := step_getFreePageOnDisk L s ooo
  · rwa [h]
  rw [h]
  exact hs.append hP hH hs.first_le le_rfl
    (by have := L.one_lt_pageSize; simp [PageManager.freshRecord]; omega)
    (fun i hi => (hs.placed i hi).lt_pageIndex.le) rfl

theorem CountInv.getFreePageForCompaction {s : Store} (hs : CountInv L s) :
    CountInv L (step L s .getFreePageForCompaction) := by
  obtain h | ⟨hP, hH, h⟩ := step_getFreePageForCompaction L s
  · rwa [h]
  rw [h]
  obtain ⟨hf, hle, hoff, -, -, -, hmono⟩ := compactionRecord_spec hs
  exact hs.append hP hH hf hle hoff hmono rfl

theorem CountInv.pageOp {s : Store} (hs : CountInv L s) (slot : ℕ)
    (f : PageManager → PageInfo → PageManager × PageInfo)
    (hf : ∀ pi, s.pages slot = some pi → ∃ r, (f s.pm pi).1 = s.pm.setPageInfo slot r ∧
      r.pageIndex = (s.pm.pageInfo slot).pageIndex ∧ r.offset = (s.pm.pageInfo slot).offset ∧
      (f s.pm pi).2.slot = slot) :
    CountInv L (s.onPage slot f) := by
  unfold onPage
  split
  · rename_i pi hpi
    obtain ⟨r, hpm, hpage, hoff, hslot⟩ := hf pi hpi
    have hlt := (hs.views slot pi hpi).2
    have hpi' : ∀ i, ((f s.pm pi).1.pageInfo i) = if i = slot then r else s.pm.pageInfo i :=
      fun i => by rw [hpm, PageManager.setPageInfo_pageInfo]
    have hidx : ∀ i, ((f s.pm pi).1.pageInfo i).pageIndex = (s.pm.pageInfo i).pageIndex :=
      fun i => by rw [hpi']; split <;> simp_all
    simp only [hpm] at hpi' hidx ⊢
    refine ⟨hs.headerIndex_le, hs.first_le, hs.open_actualPgCnt, hs.open_totalSize, hs.pageIndex_le,
      hs.compacted_le, fun i hi => ?_, fun i j hij hj => by simpa [hidx] using hs.mono i j hij hj,
      fun i hi => ?_, fun i pi' h => ?_⟩
    · have hp := hs.placed i hi
      refine ⟨by simpa [hidx] using hp.first_le, by simpa [hidx] using hp.lt_pageIndex,
        by simpa [hidx] using hp.lt_actualPgCnt, ?_⟩
      simp only [hpi']
      split
      · subst i; rw [hoff]; exact hp.offset_lt
      · exact hp.offset_lt
    · simp only [PageManager.setPageInfo_headerIndex] at hi
      rw [hpi', if_neg (by omega)]
      exact hs.unused i hi
    · by_cases hi : i = slot
      · subst hi
        simp only [Function.update_same, Option.some.injEq] at h
        subst h
        exact ⟨hslot, hlt⟩
      · simp only [Function.update_noteq hi] at h
        exact hs.views i pi' h
  · exact hs

/-- The page of the last header lies before the bump pointer; with no header the wrapped id
reads an unused slot, whose page is 0. -/
theorem CountInv.last_lt {s : Store} (hs : CountInv L s) :
    (s.pm.pageInfo s.pm.lastHeaderId).pageIndex < s.pm.pageIndex := by
  by_cases h0 : s.pm.headerIndex = 0
  · have := L.one_le_calcFirstPageInfoIndex s.pm.pageCount
    have := hs.first_le
    rw [PageManager.lastHeaderId, if_pos h0, hs.unused _ (by omega)]
    simp only [PageInfoOnDisk.empty]; omega
  · rw [PageManager.lastHeaderId_of_pos (by omega)]
    exact (hs.placed _ (by omega)).lt_pageIndex

theorem CountInv.shrinkToFit {s : Store} (hs : CountInv L s) :
    CountInv L (step L s .shrinkToFit) := by
  refine ⟨hs.headerIndex_le, hs.first_le, by simp [step, PageManager.shrinkToFit],
    by simp [step, PageManager.shrinkToFit], hs.pageIndex_le, fun _ => hs.last_lt,
    fun i hi => ?_, hs.mono, hs.unused, hs.views⟩
  have hi' : i < s.pm.headerIndex := hi
  have hp := hs.placed i hi'
  refine ⟨hp.first_le, hp.lt_pageIndex, ?_, hp.offset_lt⟩
  show _ < (s.pm.pageInfo s.pm.lastHeaderId).pageIndex + 1
  rw [PageManager.lastHeaderId_of_pos (by omega)]
  exact Nat.lt_succ_of_le (hs.mono i _ (by omega) (by omega))

theorem pageOp_record {s : Store} (hs : CountInv L s) {slot : ℕ} {pi : PageInfo}
    (hpi : s.pages slot = some pi) {r : PageInfoOnDisk}
    (hr : r = PageInfo.persistedRecord s.pm pi ∨ r = PageInfo.shrunkRecord s.pm pi) :
    r.pageIndex = (s.pm.pageInfo slot).pageIndex ∧ r.offset = (s.pm.pageInfo slot).offset := by
  rw [← (hs.views slot pi hpi).1]
  rcases hr with rfl | rfl <;> simp

theorem CountInv.step {s : Store} (hs : CountInv L s) (op : Op) : CountInv L (step L s op) := by
  cases op with
  | getFreePageOnDisk ooo => exact hs.getFreePageOnDisk ooo
  | getFreePageForCompaction => exact hs.getFreePageForCompaction
  | addDataPoint slot t o =>
    show CountInv L (s.onPage slot fun pm pi => (pm, (pi.addDataPoint t o).1))
    refine hs.pageOp slot _ fun pi hpi => ⟨s.pm.pageInfo slot,
      (PageManager.setPageInfo_pageInfo_self_eq _ _).symm, rfl, rfl, ?_⟩
    unfold PageInfo.addDataPoint; split <;> exact (hs.views slot pi hpi).1
  | persist slot =>
    show CountInv L (s.onPage slot fun pm pi => (PageInfo.persist pm pi, pi))
    refine hs.pageOp slot _ fun pi hpi => ⟨_, ?_, pageOp_record hs hpi (.inl rfl) |>.1,
      pageOp_record hs hpi (.inl rfl) |>.2, (hs.views slot pi hpi).1⟩
    rw [PageInfo.persist_eq, (hs.views slot pi hpi).1]
  | flush slot =>
    refine hs.pageOp slot _ fun pi hpi => ⟨_, ?_, pageOp_record hs hpi (.inl rfl) |>.1,
      pageOp_record hs hpi (.inl rfl) |>.2,
      (PageInfo.flush_snd_slot _ _).trans (hs.views slot pi hpi).1⟩
    rw [PageInfo.flush_fst, PageInfo.persist_eq, (hs.views slot pi hpi).1]
  | shrinkPage slot =>
    refine hs.pageOp slot _ fun pi hpi => ⟨_, ?_, pageOp_record hs hpi (.inr rfl) |>.1,
      pageOp_record hs hpi (.inr rfl) |>.2,
      (PageInfo.flush_snd_slot _ _).trans (hs.views slot pi hpi).1⟩
    rw [PageInfo.shrinkToFit_fst, (hs.views slot pi hpi).1]
  | shrinkToFit => exact hs.shrinkToFit

theorem CountInv.run {s : Store} (hs : CountInv L s) (ops : List Op) :
    CountInv L (run L s ops) := by
  induction ops generalizing s with
  | nil => exact hs
  | cons op ops ih => exact ih (hs.step op)

/-- `PageManager::shrink_to_fit` on a file with a header cuts it after the highest header page. -/
theorem shrinkToFit_cuts_after_last {s : Store} (hs : CountInv L s) (h0 : 0 < s.pm.headerIndex) :
    let pm := (step L s .shrinkToFit).pm
    (∃ j < pm.headerIndex, pm.actualPgCnt = (pm.pageInfo j).pageIndex + 1) ∧
      ∀ j < pm.headerIndex, (pm.pageInfo j).pageIndex < pm.actualPgCnt := by
  have hl := PageManager.lastHeaderId_of_pos h0
  refine ⟨⟨s.pm.headerIndex - 1, by simp only [step, PageManager.shrinkToFit]; omega,
    by simp only [step, PageManager.shrinkToFit, hl]⟩, fun j hj => ?_⟩
  simp only [step, PageManager.shrinkToFit, hl] at hj ⊢
  exact Nat.lt_succ_of_le (hs.mono j _ (by omega) (by omega))

theorem shrinkToFit_cuts_after_one_page :
    let s := run specLayout (create specLayout ⟨0, 3600⟩ 1 4) [.getFreePageOnDisk false]
    CountInv specLayout s ∧ 0 < s.pm.headerIndex ∧
      let pm := (step specLayout s .shrinkToFit).pm
      (∃ j < pm.headerIndex, pm.actualPgCnt = (pm.pageInfo j).pageIndex + 1) ∧
        ∀ j < pm.headerIndex, (pm.pageInfo j).pageIndex < pm.actualPgCnt :=
  have hs := (countInv_create (L := specLayout) ⟨0, 3600⟩ 1 4).run [.getFreePageOnDisk false]
  ⟨hs, by decide, shrinkToFit_cuts_after_last hs (by decide)⟩

/-- Once a file with a header is cut, no allocator succeeds in any later state without
reopening. -/
theorem no_allocation_after_shrink {s : Store} (hs : CountInv L s) (_h0 : 0 < s.pm.headerIndex)
    (ops : List Op) (ooo : Bool) :
    let s' := run L (step L s .shrinkToFit) ops
    step L s' (.getFreePageOnDisk ooo) = s' ∧ step L s' .getFreePageForCompaction = s' := by
  intro s'
  have hs' : CountInv L s' := (hs.step _).run ops
  have hfull : s'.pm.actualPgCnt ≤ s'.pm.pageIndex :=
    hs'.compacted_le ((run_sameFile L _ ops).stays_compacted rfl)
  constructor
  · obtain h | ⟨hP, -, -⟩ := step_getFreePageOnDisk L s' ooo
    · exact h
    · omega
  · obtain h | ⟨hP, -, -⟩ := step_getFreePageForCompaction L s'
    · exact h
    · omega

theorem no_allocation_after_shrink_one_page :
    let s := run specLayout (create specLayout ⟨0, 3600⟩ 1 4) [.getFreePageOnDisk false]
    CountInv specLayout s ∧ 0 < s.pm.headerIndex ∧
      let s' := run specLayout (step specLayout s .shrinkToFit) [.getFreePageOnDisk false]
      step specLayout s' (.getFreePageOnDisk false) = s' ∧
        step specLayout s' .getFreePageForCompaction = s' :=
  have hs := (countInv_create (L := specLayout) ⟨0, 3600⟩ 1 4).run [.getFreePageOnDisk false]
  ⟨hs, by decide, no_allocation_after_shrink hs (by decide) [.getFreePageOnDisk false] false⟩

/-- Until `PageManager::shrink_to_fit`, the byte count `PageManager::persist` syncs stays within
`total_size`. -/
theorem counters_bounded (range : TimeRange) (version pageCount : ℕ) (ops : List Op)
    (hF : L.calcFirstPageInfoIndex pageCount ≤ pageCount) :
    let pm := (run L (create L range version pageCount) ops).pm
    pm.headerIndex ≤ pm.pageCount ∧
      (pm.compacted = false → pm.pageIndex ≤ pm.actualPgCnt ∧ pm.persistSize L ≤ pm.totalSize) := by
  have hs := (countInv_create (L := L) range version pageCount).run ops
  have hc : (run L (create L range version pageCount) ops).pm.pageCount = pageCount :=
    (run_sameFile L _ ops).pageCount
  refine ⟨hs.headerIndex_le, fun h => ?_⟩
  have hle := hs.pageIndex_le
  rw [hc, max_eq_right hF] at hle
  rw [hs.open_actualPgCnt h, hc]
  refine ⟨hle, ?_⟩
  calc PageManager.persistSize L _ ≤ (run L (create L range version pageCount) ops).pm.pageIndex *
        L.pageSize := Nat.mod_le _ _
    _ ≤ pageCount * L.pageSize := Nat.mul_le_mul_right _ hle
    _ = _ := by rw [hs.open_totalSize h, hc]

theorem counters_bounded_one_page :
    specLayout.calcFirstPageInfoIndex 4 ≤ 4 ∧
      let pm := (run specLayout (create specLayout ⟨0, 3600⟩ 1 4) [.getFreePageOnDisk false]).pm
      pm.headerIndex ≤ pm.pageCount ∧
        (pm.compacted = false → pm.pageIndex ≤ pm.actualPgCnt ∧
          pm.persistSize specLayout ≤ pm.totalSize) :=
  ⟨by decide, counters_bounded _ _ _ [.getFreePageOnDisk false] (by decide)⟩

/-- A second header packed behind a shrunk first one bumps `page_index` to 3; after the cut
`persist` would sync three pages of a two-page file. -/
theorem persist_overruns_after_shrink :
    PageManager.persistSize specLayout (run specLayout (create specLayout ⟨0, 3600⟩ 1 4)
        [.getFreePageForCompaction, .addDataPoint 0 0 (some (⟨100, 0⟩, false)), .shrinkPage 0,
          .getFreePageForCompaction, .shrinkToFit]).pm = 12288 ∧
      let pm := (run specLayout (create specLayout ⟨0, 3600⟩ 1 4)
        [.getFreePageForCompaction, .addDataPoint 0 0 (some (⟨100, 0⟩, false)), .shrinkPage 0,
          .getFreePageForCompaction, .shrinkToFit]).pm
      pm.totalSize = 8192 ∧ (pm.pageInfo 0).size = 100 ∧ pm.headerIndex = 2 ∧ pm.pageIndex = 3 ∧
        pm.actualPgCnt = 2 := by
  decide

end Store

end TickTock
