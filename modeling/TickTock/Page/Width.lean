import Mathlib.Data.List.Basic
import TickTock.Page.Allocation

/-! # Filling a file, and its 32-bit byte counts

`get_page`, `flush`, `persist` and `shrink_to_fit` multiply a `PageCount` by a `PageSize` in
32 bits: exact below `2 ^ 32` bytes, wrapped in the larger files `tsdb.page.count` admits. -/

namespace TickTock

namespace Store

variable (L : Layout)

/-- `k` calls of `get_free_page_on_disk` lay the records on consecutive pages from `F` on. -/
theorem run_getFreePageOnDisk (range : TimeRange) (version pageCount : ℕ) (oos : List Bool)
    (hroom : L.calcFirstPageInfoIndex pageCount + oos.length ≤ pageCount) :
    (run L (create L range version pageCount) (oos.map .getFreePageOnDisk)).pm =
      { PageManager.create L range version pageCount with
        pageIndex := L.calcFirstPageInfoIndex pageCount + oos.length
        headerIndex := oos.length
        pageInfo := fun i => if i < oos.length then
          PageManager.freshRecord L (L.calcFirstPageInfoIndex pageCount + i) (oos[i]?.getD false)
          else PageInfoOnDisk.empty } := by
  induction oos using List.reverseRecOn with
  | nil => simp [create, PageManager.create]
  | append_singleton oos ooo ih =>
    simp only [List.length_append, List.length_singleton] at hroom ⊢
    have ih := ih (by omega)
    rw [List.map_append, List.map_singleton, run_concat,
      step_getFreePageOnDisk_of_room L (by rw [ih]; simp [PageManager.create]; omega)
        (by rw [ih]; simp [PageManager.create]; omega)]
    simp only [appendPage, ih, PageManager.setPageInfo, PageManager.create]
    congr 1
    funext i
    rcases Nat.lt_trichotomy i oos.length with h | rfl | h
    · simp [Function.update_noteq h.ne, h, Nat.lt_succ_of_lt h, List.getElem?_append_left h]
    · simp
    · simp [Function.update_noteq h.ne', show ¬ i < oos.length + 1 by omega,
        show ¬ i < oos.length by omega]

/-- In a file of fewer than `2 ^ 32` bytes no byte count wraps. -/
theorem byte_counts_exact {s : Store} (hs : CountInv L s)
    (hF : L.calcFirstPageInfoIndex s.pm.pageCount ≤ s.pm.pageCount)
    (hsmall : s.pm.pageCount * L.pageSize < 2 ^ 32) :
    (∀ j < s.pm.headerIndex, (s.pm.getThePageOnDisk j).map (PageInfo.getPage L s.pm) =
      some ((s.pm.pageInfo j).pageIndex * L.pageSize + (s.pm.pageInfo j).offset)) ∧
    s.pm.persistSize L = s.pm.pageIndex * L.pageSize ∧
    (s.pm.shrinkToFit L).totalSize = (s.pm.shrinkToFit L).actualPgCnt * L.pageSize := by
  have hle : s.pm.pageIndex * L.pageSize ≤ s.pm.pageCount * L.pageSize := by
    have := hs.pageIndex_le
    rw [max_eq_right hF] at this
    exact Nat.mul_le_mul_right _ this
  have hbelow : ∀ p < s.pm.pageIndex, p * L.pageSize + L.pageSize ≤ s.pm.pageIndex * L.pageSize :=
    fun p hp => by simpa [Nat.succ_mul] using Nat.mul_le_mul_right L.pageSize hp
  refine ⟨fun j hj => ?_, Nat.mod_eq_of_lt (by omega), Nat.mod_eq_of_lt ?_⟩
  · have hp := hs.placed j hj
    have := hbelow _ hp.lt_pageIndex
    have := hs.headerIndex_le
    have hlt : (s.pm.pageInfo j).pageIndex * L.pageSize < 2 ^ 32 := by omega
    simp only [PageManager.getThePageOnDisk, if_neg (show ¬ s.pm.pageCount ≤ j by omega),
      Option.map_some', PageInfo.getPage, PageInfo.initFromDisk, Nat.mod_eq_of_lt hlt]
  · have := hbelow _ hs.last_lt
    simp only [PageManager.shrinkToFit, Nat.succ_mul]
    omega

/-- A file of `2 ^ 21` pages filled up to page `2 ^ 20`: the byte counts wrap to 0 and 4096. -/
theorem byte_counts_wrap :
    (run specLayout (create specLayout ⟨0, 3600⟩ 1 (2 ^ 21))
        ((List.replicate 1038336 false).map .getFreePageOnDisk)).pm.pageIndex = 2 ^ 20 + 1 ∧
      let pm := (run specLayout (create specLayout ⟨0, 3600⟩ 1 (2 ^ 21))
        ((List.replicate 1038336 false).map .getFreePageOnDisk)).pm
      (pm.pageInfo 1038335).pageIndex * 4096 = 2 ^ 32 ∧
      (pm.getThePageOnDisk 1038335).map (PageInfo.getPage specLayout pm) = some 0 ∧
      pm.persistSize specLayout = 4096 ∧ pm.flushSize specLayout = 4096 ∧
      (pm.shrinkToFit specLayout).totalSize = 4096 ∧ pm.totalSize = 2 ^ 33 := by
  obtain ⟨oos, hoos⟩ : ∃ oos : List Bool, oos = List.replicate 1038336 false := ⟨_, rfl⟩
  have hlen : oos.length = 1038336 := by rw [hoos, List.length_replicate]
  have hF : specLayout.calcFirstPageInfoIndex (2 ^ 21) = 10241 := by decide
  rw [← hoos, run_getFreePageOnDisk specLayout _ _ _ oos (by rw [hlen, hF]; decide), hlen, hF]
  simp only [PageManager.create, PageManager.freshRecord, PageManager.getThePageOnDisk,
    PageInfo.getPage, PageInfo.initFromDisk, PageManager.persistSize, PageManager.flushSize,
    PageManager.shrinkToFit, PageManager.lastHeaderId, if_neg (show (1038336 : ℕ) ≠ 0 by decide),
    specLayout, if_pos (show (1038335 : ℕ) < 1038336 by decide),
    if_neg (show ¬ (2 : ℕ) ^ 21 ≤ 1038335 by decide), Option.map_some',
    show (1038336 - 1 : ℕ) = 1038335 from rfl]
  decide

/-- Below `2 ^ 32` bytes, `shrink_to_fit` keeps every header's window inside the file. -/
theorem windows_inside_after_shrink {s : Store} (hs : AllocInv L s)
    (hF : L.calcFirstPageInfoIndex s.pm.pageCount ≤ s.pm.pageCount)
    (hsmall : s.pm.pageCount * L.pageSize < 2 ^ 32) :
    let pm := s.pm.shrinkToFit L
    ∀ j < pm.headerIndex, ∀ b, (pm.pageInfo j).InWindow L b → b < pm.totalSize := by
  intro pm j hj b hb
  have htot : pm.totalSize = pm.actualPgCnt * L.pageSize :=
    (byte_counts_exact L hs.toCountInv hF hsmall).2.2
  rw [htot]
  simp only [pm, PageManager.shrinkToFit] at hj hb ⊢
  rw [PageManager.lastHeaderId_of_pos (by omega)]
  have hlast := Nat.mul_le_mul_right L.pageSize
    (Nat.succ_le_succ (hs.mono j (s.pm.headerIndex - 1) (by omega) (by omega)))
  have hwithin := (hs.records j hj).within
  simp only [Nat.succ_eq_add_one, Nat.add_mul, Nat.one_mul] at hlast ⊢
  unfold PageInfoOnDisk.InWindow at hb
  omega

theorem windows_inside_after_shrink_one_page :
    let s := run specLayout (create specLayout ⟨0, 3600⟩ 1 4) [.getFreePageOnDisk false]
    AllocInv specLayout s ∧ specLayout.calcFirstPageInfoIndex s.pm.pageCount ≤ s.pm.pageCount ∧
      s.pm.pageCount * specLayout.pageSize < 2 ^ 32 ∧
      let pm := s.pm.shrinkToFit specLayout
      ∀ j < pm.headerIndex, ∀ b, (pm.pageInfo j).InWindow specLayout b → b < pm.totalSize :=
  have hs := (allocInv_create (L := specLayout) ⟨0, 3600⟩ 1 4).run
    (by decide : Fitting specLayout _ [.getFreePageOnDisk false])
  ⟨hs, by decide, by decide, windows_inside_after_shrink specLayout hs (by decide) (by decide)⟩

/-- A file of `2 ^ 20` pages filled to its last page: `shrink_to_fit` computes `total_size` 0. -/
theorem shrink_cuts_to_zero :
    (run specLayout (create specLayout ⟨0, 3600⟩ 1 (2 ^ 20))
        ((List.replicate 1043455 false).map .getFreePageOnDisk ++ [.shrinkToFit])).pm.actualPgCnt =
      2 ^ 20 ∧
      let pm := (run specLayout (create specLayout ⟨0, 3600⟩ 1 (2 ^ 20))
        ((List.replicate 1043455 false).map .getFreePageOnDisk ++ [.shrinkToFit])).pm
      pm.headerIndex = 1043455 ∧ pm.totalSize = 0 ∧
        (pm.pageInfo 1043454).InWindow specLayout (2 ^ 32 - 1) := by
  obtain ⟨oos, hoos⟩ : ∃ oos : List Bool, oos = List.replicate 1043455 false := ⟨_, rfl⟩
  have hlen : oos.length = 1043455 := by rw [hoos, List.length_replicate]
  have hF : specLayout.calcFirstPageInfoIndex (2 ^ 20) = 5121 := by decide
  rw [← hoos, run_concat]
  simp only [step]
  rw [run_getFreePageOnDisk specLayout _ _ _ oos (by rw [hlen, hF]; decide), hlen, hF]
  simp only [PageManager.create, PageManager.freshRecord, PageManager.shrinkToFit,
    PageManager.lastHeaderId, if_neg (show (1043455 : ℕ) ≠ 0 by decide),
    PageInfoOnDisk.InWindow, specLayout, if_pos (show (1043454 : ℕ) < 1043455 by decide),
    show (1043455 - 1 : ℕ) = 1043454 from rfl]
  decide

end Store

end TickTock
