import TickTock.Page.PageInfo

/-! # `PageManager`

Opening a data file, the two allocators (one atomic step each, as `m_lock` serialises them),
lookup, the byte counts `flush` and `persist` sync, `shrink_to_fit` and recovery. -/

namespace TickTock

namespace PageManager

variable (L : Layout)

/-- `PageManager::PageManager` on a new file; `total_size` is a 64-bit product. -/
def create (range : TimeRange) (compressorVersion pageCount : ℕ) : PageManager where
  timeRange := range
  compressorVersion := compressorVersion
  compacted := false
  totalSize := pageCount * L.pageSize
  fileCompressorVersion := compressorVersion
  fileCompacted := false
  pageCount := pageCount
  pageIndex := L.calcFirstPageInfoIndex pageCount
  headerIndex := 0
  actualPgCnt := pageCount
  pageInfo := fun _ => PageInfoOnDisk.empty

def freshRecord (pageIdx : ℕ) (ooo : Bool) : PageInfoOnDisk :=
  { PageInfoOnDisk.empty with outOfOrder := ooo, pageIndex := pageIdx, offset := 0,
                              size := L.pageSize }

def getFreePageOnDisk (pm : PageManager) (ooo : Bool) : Option (PageManager × PageInfo) :=
  if pm.pageIndex < pm.actualPgCnt ∧ pm.headerIndex < pm.pageCount then
    let (pm', info) := PageInfo.initForDisk pm pm.headerIndex pm.pageIndex L.pageSize ooo
    let info := PageInfo.setupCompressor L pm' info pm'.timeRange
      (if ooo then 0 else pm'.compressorVersion)
    some ({ pm' with pageIndex := pm'.pageIndex + 1, headerIndex := pm'.headerIndex + 1 }, info)
  else none

/-- `PageManager::get_free_page_for_compaction`; `offset` is a 16-bit `PageSize`. -/
def getFreePageForCompaction (pm : PageManager) : Option (PageManager × PageInfo) :=
  if pm.pageIndex < pm.actualPgCnt ∧ pm.headerIndex < pm.pageCount then
    let id := pm.headerIndex
    let (pm', info) := PageInfo.initForDisk pm id pm.pageIndex L.pageSize false
    let pm' := { pm' with pageIndex := pm'.pageIndex + 1, headerIndex := pm'.headerIndex + 1 }
    let pm' :=
      if 0 < id then
        let prev := pm'.pageInfo (id - 1)
        let offset := (prev.offset + prev.size) % 2 ^ 16
        if 12 ≤ L.pageSize - offset then
          pm'.setPageInfo id { pm'.pageInfo id with pageIndex := prev.pageIndex, offset := offset,
                                                    size := L.pageSize - offset }
        else pm'.setPageInfo id { pm'.pageInfo id with pageIndex := prev.pageIndex + 1 }
      else pm'
    some (pm', PageInfo.setupCompressor L pm' info pm'.timeRange pm'.compressorVersion)
  else none

def getThePageOnDisk (pm : PageManager) (headerIndex : ℕ) : Option PageInfo :=
  if pm.pageCount ≤ headerIndex then none else some (PageInfo.initFromDisk pm headerIndex)

/-- The byte count `PageManager::flush` syncs: a 32-bit product capped at `total_size`. -/
def flushSize (pm : PageManager) : ℕ :=
  min (pm.pageIndex * L.pageSize % 2 ^ 32) pm.totalSize

/-- The byte count `PageManager::persist` syncs and `ASSERT`s within `total_size`. -/
def persistSize (pm : PageManager) : ℕ :=
  pm.pageIndex * L.pageSize % 2 ^ 32

/-- `PageCount id = *m_header_index - 1` in 32 bits: with no header it wraps to `2^32 - 1`,
a slot outside the table. -/
def lastHeaderId (pm : PageManager) : ℕ :=
  if pm.headerIndex = 0 then 2 ^ 32 - 1 else pm.headerIndex - 1

theorem lastHeaderId_of_pos {pm : PageManager} (h : 0 < pm.headerIndex) :
    pm.lastHeaderId = pm.headerIndex - 1 :=
  if_neg (Nat.pos_iff_ne_zero.1 h)

/-- `PageManager::shrink_to_fit`, with a 32-bit `last * g_page_size`. With no header the code
reads past its mapping, a crash; the model's table is total, so results about the calls after
that one assume `0 < header_index`. -/
def shrinkToFit (pm : PageManager) : PageManager :=
  let last := (pm.pageInfo pm.lastHeaderId).pageIndex + 1
  { pm with actualPgCnt := last, totalSize := last * L.pageSize % 2 ^ 32, compacted := true,
            fileCompacted := true }

/-- The constructor's recovery loop from `id = *m_page_index`: one past where the walk stops. -/
def recoverPageIndex (pageInfo : ℕ → PageInfoOnDisk) (first : ℕ) : ℕ → ℕ
  | 0 => 0
  | id + 1 =>
    if id < first ∨ (pageInfo id).pageIndex ≠ 0 then id + 1
    else recoverPageIndex pageInfo first id

/-- `PageManager::PageManager` on an existing file: `open_mmap`, then the recovery loop. -/
def reopen (pm : PageManager) : PageManager :=
  { pm with compressorVersion := pm.fileCompressorVersion, compacted := pm.fileCompacted,
            totalSize := pm.actualPgCnt * L.pageSize,
            pageIndex := recoverPageIndex pm.pageInfo (L.calcFirstPageInfoIndex pm.pageCount)
              pm.pageIndex }

/-! ## Allocation, step by step -/

theorem getFreePageOnDisk_eq_some {pm : PageManager} {ooo : Bool} {r : PageManager × PageInfo} :
    getFreePageOnDisk L pm ooo = some r ↔
      pm.pageIndex < pm.actualPgCnt ∧ pm.headerIndex < pm.pageCount ∧
      r = ({ pm.setPageInfo pm.headerIndex (freshRecord L pm.pageIndex ooo) with
               pageIndex := pm.pageIndex + 1, headerIndex := pm.headerIndex + 1 },
           ⟨pm.headerIndex, some (Compressor.init (if ooo then 0 else pm.compressorVersion)
              pm.timeRange.tsFrom (pm.pageIndex * L.pageSize % 2 ^ 32) L.pageSize),
            ⟨pm.timeRange.tsTo, pm.timeRange.tsFrom⟩⟩) := by
  unfold getFreePageOnDisk
  split
  · rename_i h
    simp only [PageInfo.initForDisk, PageInfo.setupCompressor, PageInfo.getPage,
      setPageInfo_pageInfo_self, Option.some.injEq, h, true_and]
    cases ooo <;> simp [freshRecord, eq_comm]
  · simp_all

/-- The record the compaction allocator leaves in slot `id`. -/
def compactionRecord (pm : PageManager) (id pageIdx : ℕ) : PageInfoOnDisk :=
  if 0 < id then
    let prev := pm.pageInfo (id - 1)
    let offset := (prev.offset + prev.size) % 2 ^ 16
    if 12 ≤ L.pageSize - offset then
      { freshRecord L pageIdx false with pageIndex := prev.pageIndex, offset := offset,
                                         size := L.pageSize - offset }
    else { freshRecord L pageIdx false with pageIndex := prev.pageIndex + 1 }
  else freshRecord L pageIdx false

@[simp] theorem compactionRecord_outOfOrder (pm : PageManager) (id pageIdx : ℕ) :
    (compactionRecord L pm id pageIdx).outOfOrder = false := by
  unfold compactionRecord; dsimp only; split_ifs <;> rfl

theorem getFreePageForCompaction_eq_some {pm : PageManager} {r : PageManager × PageInfo} :
    getFreePageForCompaction L pm = some r ↔
      pm.pageIndex < pm.actualPgCnt ∧ pm.headerIndex < pm.pageCount ∧
      r = ({ pm.setPageInfo pm.headerIndex (compactionRecord L pm pm.headerIndex pm.pageIndex) with
               pageIndex := pm.pageIndex + 1, headerIndex := pm.headerIndex + 1 },
           ⟨pm.headerIndex, some (Compressor.init pm.compressorVersion pm.timeRange.tsFrom
              ((compactionRecord L pm pm.headerIndex pm.pageIndex).pageIndex * L.pageSize % 2 ^ 32
                + (compactionRecord L pm pm.headerIndex pm.pageIndex).offset)
              (compactionRecord L pm pm.headerIndex pm.pageIndex).size),
            ⟨pm.timeRange.tsTo, pm.timeRange.tsFrom⟩⟩) := by
  unfold getFreePageForCompaction
  split
  · rename_i h
    simp only [PageInfo.initForDisk, Option.some.injEq, h, true_and]
    unfold compactionRecord
    by_cases h0 : 0 < pm.headerIndex
    · have hne : pm.headerIndex - 1 ≠ pm.headerIndex := by omega
      simp only [h0, if_true, setPageInfo_pageInfo_of_ne _ _ hne]
      split <;> simp [PageInfo.setupCompressor, PageInfo.getPage, freshRecord,
        setPageInfo, eq_comm, PageInfoOnDisk.empty]
    · simp [h0, PageInfo.setupCompressor, PageInfo.getPage, freshRecord, setPageInfo, eq_comm,
        PageInfoOnDisk.empty]
  · simp_all

end PageManager

end TickTock
