import TickTock.Page.Width

/-! # Recovery on reopen

The constructor rewinds `page_index` past uninitialised records, but it indexes the table by
physical page number, not by header slot, and leaves `header_index` alone. -/

namespace TickTock

namespace PageManager

variable {L : Layout}

theorem recoverPageIndex_eq {pageInfo : ℕ → PageInfoOnDisk} {first n : ℕ} (hn : first ≤ n)
    (hstop : n = first ∨ (pageInfo (n - 1)).pageIndex ≠ 0)
    (hzero : ∀ id, n ≤ id → (pageInfo id).pageIndex = 0) :
    ∀ top, n ≤ top → recoverPageIndex pageInfo first top = n
  | 0, h => by simp [recoverPageIndex]; omega
  | top + 1, h => by
    unfold recoverPageIndex
    rcases Nat.lt_or_eq_of_le h with h | h
    · rw [if_neg (by have := hzero top (by omega); omega)]
      exact recoverPageIndex_eq hn hstop hzero top (by omega)
    · subst h
      simp only [Nat.add_sub_cancel] at hstop
      rw [if_pos (by omega)]

theorem recoverPageIndex_idem (pageInfo : ℕ → PageInfoOnDisk) (first : ℕ) :
    ∀ top, recoverPageIndex pageInfo first (recoverPageIndex pageInfo first top) =
      recoverPageIndex pageInfo first top
  | 0 => rfl
  | top + 1 => by
    by_cases h : top < first ∨ (pageInfo top).pageIndex ≠ 0
    · have e : recoverPageIndex pageInfo first (top + 1) = top + 1 := by
        rw [recoverPageIndex, if_pos h]
      rw [e]
      exact e
    · have e : recoverPageIndex pageInfo first (top + 1) = recoverPageIndex pageInfo first top := by
        rw [recoverPageIndex, if_neg h]
      rw [e]
      exact recoverPageIndex_idem pageInfo first top

/-- Recovery is idempotent. -/
theorem reopen_reopen (pm : PageManager) : (pm.reopen L).reopen L = pm.reopen L := by
  simp only [reopen, recoverPageIndex_idem]

/-- A crash that kept both bump pointers but lost the records of the last `m` allocations. -/
def loseRecords (pm : PageManager) (m : ℕ) : PageManager :=
  { pm with pageInfo := fun i =>
      if pm.headerIndex - m ≤ i ∧ i < pm.headerIndex then PageInfoOnDisk.empty else pm.pageInfo i }

end PageManager

namespace Store

variable (L : Layout)

/-- After `k` allocations with the last `m` records lost, reopening sets `page_index` to
`max F (k - m)` and keeps `header_index = k`. -/
theorem reopen_after_lost_records (range : TimeRange) (version pageCount : ℕ) (oos : List Bool)
    (hroom : L.calcFirstPageInfoIndex pageCount + oos.length ≤ pageCount) (m : ℕ)
    (hm : m ≤ oos.length) :
    let pm := ((run L (create L range version pageCount)
      (oos.map .getFreePageOnDisk)).pm.loseRecords m).reopen L
    pm.pageIndex = max (L.calcFirstPageInfoIndex pageCount) (oos.length - m) ∧
      pm.headerIndex = oos.length := by
  have hF := L.one_le_calcFirstPageInfoIndex pageCount
  rw [run_getFreePageOnDisk L range version pageCount oos hroom]
  refine ⟨?_, rfl⟩
  simp only [PageManager.reopen, PageManager.loseRecords, PageManager.create]
  apply PageManager.recoverPageIndex_eq (le_max_left _ _)
  · by_cases h : L.calcFirstPageInfoIndex pageCount ≤ oos.length - m
    · refine .inr ?_
      rw [max_eq_right h, if_neg (by omega), if_pos (by omega)]
      simp [PageManager.freshRecord]
      omega
    · exact .inl (max_eq_left (by omega))
  · intro id hid
    split_ifs <;> simp [PageManager.freshRecord, PageInfoOnDisk.empty]
    omega
  · omega

theorem reopen_after_one_lost_record :
    specLayout.calcFirstPageInfoIndex 4 + [false].length ≤ 4 ∧ 1 ≤ [false].length ∧
      let pm := ((run specLayout (create specLayout ⟨0, 3600⟩ 1 4)
        ([false].map .getFreePageOnDisk)).pm.loseRecords 1).reopen specLayout
      pm.pageIndex = max (specLayout.calcFirstPageInfoIndex 4) ([false].length - 1) ∧
        pm.headerIndex = [false].length :=
  ⟨by decide, by decide, reopen_after_lost_records specLayout ⟨0, 3600⟩ 1 4 [false] (by decide) 1
    (by decide)⟩

/-- With nothing lost, the reopen hands out page 1 of the surviving header 0 again. -/
theorem reopen_reissues_live_page :
    (run specLayout (create specLayout ⟨0, 3600⟩ 1 4) [.getFreePageOnDisk false]).pm.pageIndex = 2 ∧
      let pm := (run specLayout (create specLayout ⟨0, 3600⟩ 1 4)
        [.getFreePageOnDisk false]).pm.reopen specLayout
      pm.pageIndex = 1 ∧ pm.headerIndex = 1 ∧ (pm.pageInfo 0).pageIndex = 1 ∧
      (PageManager.getFreePageOnDisk specLayout pm false).map (fun r => (r.1.pageInfo 1).pageIndex)
        = some 1 := by
  decide

end Store

end TickTock
