import Mathlib.Logic.Function.Basic
import Mathlib.Tactic.Ring

/-! # The data file of a `PageManager`

A `tsdb_header`, a table of `page_count` `page_info_on_disk` records, then the pages. `page.h`
is not under src/: the record sizes are parameters of a `Layout`. -/

namespace TickTock

/-- Page size and record sizes; `ASSERT(size > 1)` and the 16-bit `PageSize` bound the first. -/
structure Layout where
  pageSize : ℕ
  headerSize : ℕ
  infoSize : ℕ
  one_lt_pageSize : 1 < pageSize
  pageSize_lt : pageSize < 2 ^ 16
  headerSize_pos : 0 < headerSize

namespace Layout

variable (L : Layout)

/-- `PageManager::calc_first_page_info_index`: the code's `std::ceil` of a double quotient, exact
while the numerator stays below `2 ^ 53`. -/
def calcFirstPageInfoIndex (pageCount : ℕ) : ℕ :=
  (pageCount * L.infoSize + L.headerSize + L.pageSize - 1) / L.pageSize

theorem table_le_calcFirstPageInfoIndex (pageCount : ℕ) :
    L.headerSize + pageCount * L.infoSize ≤ L.calcFirstPageInfoIndex pageCount * L.pageSize := by
  have hd := Nat.div_add_mod (pageCount * L.infoSize + L.headerSize + L.pageSize - 1) L.pageSize
  have hm := Nat.mod_lt (pageCount * L.infoSize + L.headerSize + L.pageSize - 1)
    (show 0 < L.pageSize by have := L.one_lt_pageSize; omega)
  rw [calcFirstPageInfoIndex, Nat.mul_comm _ L.pageSize]
  generalize pageCount * L.infoSize = n at *
  omega

theorem one_le_calcFirstPageInfoIndex (pageCount : ℕ) :
    1 ≤ L.calcFirstPageInfoIndex pageCount := by
  have h := L.table_le_calcFirstPageInfoIndex pageCount
  have := L.headerSize_pos
  by_contra h0
  simp_all

end Layout

/-- Modelled from the spec: the field widths of §6 make `tsdb_header` 36 bytes and
`page_info_on_disk` 20 bytes; pages are 4 KiB, the configured default. -/
def specLayout : Layout := ⟨4096, 36, 20, by decide, by decide, by decide⟩

structure TimeRange where
  tsFrom : ℕ
  tsTo : ℕ
  deriving DecidableEq, Repr

/-- Modelled from the spec: `TimeRange::add_time` (not under src/) widens the range to
include the timestamp. -/
def TimeRange.addTime (r : TimeRange) (t : ℕ) : TimeRange :=
  ⟨min r.tsFrom t, max r.tsTo t⟩

structure CompressorPosition where
  offset : ℕ
  start : ℕ
  deriving DecidableEq, Repr

/-- What `page.cpp` observes of a compressor (`compress.h` is not under src/). -/
structure Compressor where
  version : ℕ
  startTstamp : ℕ
  buffer : ℕ
  size : ℕ
  position : CompressorPosition
  full : Bool
  deriving DecidableEq, Repr

/-- Modelled from the spec: `Compressor::init(base, buffer, size)` binds an empty
compressor to a buffer. -/
def Compressor.init (version startTstamp buffer size : ℕ) : Compressor :=
  ⟨version, startTstamp, buffer, size, ⟨0, 0⟩, false⟩

/-- Modelled from the spec: `Compressor::restore(dps, position, nullptr)` resumes the state
saved at `position`. -/
def Compressor.restore (c : Compressor) (position : CompressorPosition) : Compressor :=
  { c with position := position }

structure PageInfoOnDisk where
  pageIndex : ℕ
  offset : ℕ
  size : ℕ
  cursor : ℕ
  start : ℕ
  full : Bool
  outOfOrder : Bool
  tstampFrom : ℕ
  tstampTo : ℕ
  deriving DecidableEq, Repr

namespace PageInfoOnDisk

/-- The all-zero record `PageManager::init_headers` writes; modelled from the spec,
`page_info_on_disk::init(range)` resets a fresh page's record to it as well. -/
def empty : PageInfoOnDisk := ⟨0, 0, 0, 0, 0, false, false, 0, 0⟩

/-- Modelled from the spec: `page_info_on_disk::init(cursor, start, is_full, from, to)`
records a compressor position, the full flag and the time range. The two offsets are
`uint32_t` parameters. -/
def init (h : PageInfoOnDisk) (cursor start : ℕ) (isFull : Bool) (tsFrom tsTo : ℕ) :
    PageInfoOnDisk :=
  { h with cursor := cursor, start := start, full := isFull,
           tstampFrom := tsFrom % 2 ^ 32, tstampTo := tsTo % 2 ^ 32 }

def InWindow (L : Layout) (h : PageInfoOnDisk) (b : ℕ) : Prop :=
  h.pageIndex * L.pageSize + h.offset ≤ b ∧ b < h.pageIndex * L.pageSize + h.offset + h.size

instance (L : Layout) (h : PageInfoOnDisk) (b : ℕ) : Decidable (h.InWindow L b) :=
  inferInstanceAs (Decidable (_ ∧ _))

@[simp] theorem init_pageIndex (h : PageInfoOnDisk) (c s f a b) :
    (h.init c s f a b).pageIndex = h.pageIndex := rfl
@[simp] theorem init_offset (h : PageInfoOnDisk) (c s f a b) :
    (h.init c s f a b).offset = h.offset := rfl
@[simp] theorem init_size (h : PageInfoOnDisk) (c s f a b) :
    (h.init c s f a b).size = h.size := rfl
@[simp] theorem init_outOfOrder (h : PageInfoOnDisk) (c s f a b) :
    (h.init c s f a b).outOfOrder = h.outOfOrder := rfl
@[simp] theorem init_cursor (h : PageInfoOnDisk) (c s f a b) : (h.init c s f a b).cursor = c := rfl
@[simp] theorem init_start (h : PageInfoOnDisk) (c s f a b) : (h.init c s f a b).start = s := rfl
@[simp] theorem init_full (h : PageInfoOnDisk) (c s f a b) : (h.init c s f a b).full = f := rfl

end PageInfoOnDisk

/-- In-memory fields, then the `tsdb_header` fields (`m_page_count`, `m_page_index`,
`m_header_index`, `m_actual_pg_cnt` point there) and the page-info table. -/
structure PageManager where
  timeRange : TimeRange
  compressorVersion : ℕ
  compacted : Bool
  totalSize : ℕ
  fileCompressorVersion : ℕ
  fileCompacted : Bool
  pageCount : ℕ
  pageIndex : ℕ
  headerIndex : ℕ
  actualPgCnt : ℕ
  pageInfo : ℕ → PageInfoOnDisk

/-- The slot `m_header` points at, the live compressor and the in-memory time range. -/
structure PageInfo where
  slot : ℕ
  compressor : Option Compressor
  timeRange : TimeRange

namespace PageManager

def setPageInfo (pm : PageManager) (id : ℕ) (h : PageInfoOnDisk) : PageManager :=
  { pm with pageInfo := Function.update pm.pageInfo id h }

@[simp] theorem setPageInfo_pageInfo_self (pm : PageManager) (id h) :
    (pm.setPageInfo id h).pageInfo id = h := by simp [setPageInfo]

theorem setPageInfo_pageInfo_of_ne (pm : PageManager) {id i : ℕ} (h) (hi : i ≠ id) :
    (pm.setPageInfo id h).pageInfo i = pm.pageInfo i := by simp [setPageInfo, hi]

theorem setPageInfo_pageInfo (pm : PageManager) (id h i) :
    (pm.setPageInfo id h).pageInfo i = if i = id then h else pm.pageInfo i := by
  split <;> simp_all [setPageInfo_pageInfo_of_ne]

@[simp] theorem setPageInfo_timeRange (pm : PageManager) (id h) :
    (pm.setPageInfo id h).timeRange = pm.timeRange := rfl
@[simp] theorem setPageInfo_compressorVersion (pm : PageManager) (id h) :
    (pm.setPageInfo id h).compressorVersion = pm.compressorVersion := rfl
@[simp] theorem setPageInfo_compacted (pm : PageManager) (id h) :
    (pm.setPageInfo id h).compacted = pm.compacted := rfl
@[simp] theorem setPageInfo_totalSize (pm : PageManager) (id h) :
    (pm.setPageInfo id h).totalSize = pm.totalSize := rfl
@[simp] theorem setPageInfo_fileCompressorVersion (pm : PageManager) (id h) :
    (pm.setPageInfo id h).fileCompressorVersion = pm.fileCompressorVersion := rfl
@[simp] theorem setPageInfo_fileCompacted (pm : PageManager) (id h) :
    (pm.setPageInfo id h).fileCompacted = pm.fileCompacted := rfl
@[simp] theorem setPageInfo_pageCount (pm : PageManager) (id h) :
    (pm.setPageInfo id h).pageCount = pm.pageCount := rfl
@[simp] theorem setPageInfo_pageIndex (pm : PageManager) (id h) :
    (pm.setPageInfo id h).pageIndex = pm.pageIndex := rfl
@[simp] theorem setPageInfo_headerIndex (pm : PageManager) (id h) :
    (pm.setPageInfo id h).headerIndex = pm.headerIndex := rfl
@[simp] theorem setPageInfo_actualPgCnt (pm : PageManager) (id h) :
    (pm.setPageInfo id h).actualPgCnt = pm.actualPgCnt := rfl

end PageManager

end TickTock
