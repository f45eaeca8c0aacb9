import Mathlib.Algebra.Order.Ring.Nat
import TickTock.Config.Properties

/-! # `Config::c_str`

The writes `c_str` makes, each an offset and a bound. `idx` moves on by the untruncated length
`snprintf` returns; it is the code's `int` while the dump stays below `2^31` bytes. -/

namespace TickTock

/-- `snprintf(&buff[pos], bound, ...)`, or `buff[0] = 0` as `pos = 0`, `bound = 1`. -/
structure Write where
  pos : ℕ
  bound : ℕ
  deriving DecidableEq, Repr

def Write.InBounds (size : ℕ) (w : Write) : Prop := w.pos < size ∧ w.bound ≤ size - w.pos

instance (size : ℕ) : DecidablePred (Write.InBounds size) :=
  fun _ => inferInstanceAs (Decidable (_ ∧ _))

/-- What `snprintf` returns for a property line: the length of the untruncated text. -/
def entryLength (name value : String) : ℕ := 10 + name.utf8ByteSize + value.utf8ByteSize

/-- `size-idx+2` evaluated in `size_t`. -/
def sizeTBound (size idx : ℕ) : ℕ := (BitVec.ofNat 64 size - BitVec.ofNat 64 idx + 2).toNat

namespace Config

/-- The `for` loop of `c_str`: its writes, and the offset it ends at. -/
def cStrLoop (size : ℕ) : ℕ → List (String × String) → List Write × ℕ
  | idx, [] => ([], idx)
  | idx, (name, value) :: es =>
    if size > idx then
      let n := entryLength name value
      if n ≤ 0 then ([⟨idx, size - idx⟩, ⟨0, 1⟩], idx)
      else
        let r := cStrLoop size (idx + n) es
        (⟨idx, size - idx⟩ :: r.1, r.2)
    else ([], idx)

def cStr (c : Config) (size : ℕ) : List Write :=
  let r := cStrLoop size 2 c.properties.entries
  ⟨0, size⟩ :: r.1 ++ [⟨r.2 - 2, sizeTBound size r.2⟩]

theorem inBounds_cStrLoop {size : ℕ} (h0 : 0 < size) (idx : ℕ) (es : List (String × String)) :
    ∀ w ∈ (cStrLoop size idx es).1, w.InBounds size := by
  induction es generalizing idx with
  | nil => simp [cStrLoop]
  | cons e es ih =>
    obtain ⟨name, value⟩ := e
    unfold cStrLoop
    dsimp only
    split_ifs with hs
    · simp only [List.mem_cons, List.not_mem_nil, or_false]
      rintro w (rfl | rfl) <;> simp only [Write.InBounds] <;> omega
    · simp only [List.mem_cons]
      rintro w (rfl | hw)
      · simp only [Write.InBounds]; omega
      · exact ih _ w hw
    · simp

theorem le_cStrLoop (size idx : ℕ) (es : List (String × String)) :
    idx ≤ (cStrLoop size idx es).2 := by
  induction es generalizing idx with
  | nil => simp [cStrLoop]
  | cons e es ih =>
    obtain ⟨name, value⟩ := e
    unfold cStrLoop
    dsimp only
    split_ifs
    · rfl
    · exact (Nat.le_add_right _ _).trans (ih _)
    · rfl

theorem inBounds_closing_iff {size idx : ℕ} (h64 : size < 2 ^ 64) (h2 : 2 ≤ idx) :
    Write.InBounds size ⟨idx - 2, sizeTBound size idx⟩ ↔ idx ≤ size + 1 := by
  simp only [Write.InBounds, sizeTBound]
  bv_omega

theorem inBounds_cStr_iff (c : Config) {size : ℕ} (h0 : 0 < size) (h64 : size < 2 ^ 64) :
    (∀ w ∈ c.cStr size, w.InBounds size) ↔
      (cStrLoop size 2 c.properties.entries).2 ≤ size + 1 := by
  rw [← inBounds_closing_iff h64 (le_cStrLoop size 2 _)]
  simp only [cStr, List.cons_append, List.mem_cons, List.mem_append, List.mem_singleton,
    List.not_mem_nil, or_false]
  constructor
  · exact fun h => h _ (.inr (.inr rfl))
  · rintro h w (rfl | hw | rfl)
    · exact ⟨h0, by simp⟩
    · exact inBounds_cStrLoop h0 2 _ w hw
    · exact h

theorem cStrLoop_of_fits {size idx : ℕ} {es : List (String × String)}
    (h : idx + (es.map fun e => entryLength e.1 e.2).sum ≤ size + 1) :
    (cStrLoop size idx es).2 = idx + (es.map fun e => entryLength e.1 e.2).sum := by
  induction es generalizing idx with
  | nil => rfl
  | cons e es ih =>
    obtain ⟨name, value⟩ := e
    have hn : 10 ≤ entryLength name value := by unfold entryLength; omega
    simp only [List.map_cons, List.sum_cons] at h ⊢
    rw [cStrLoop, if_pos (by omega), if_neg (by omega), ih (by omega)]
    omega

theorem cStrLoop_le_sum (size : ℕ) {idx : ℕ} {es : List (String × String)} :
    (cStrLoop size idx es).2 ≤ idx + (es.map fun e => entryLength e.1 e.2).sum := by
  induction es generalizing idx with
  | nil => exact (Nat.add_zero idx).ge
  | cons e es ih =>
    obtain ⟨name, value⟩ := e
    rw [cStrLoop]
    dsimp only
    split_ifs
    · simp
    · have := @ih (idx + entryLength name value)
      simp only [List.map_cons, List.sum_cons]
      omega
    · simp

theorem cStrLoop_le_iff {size : ℕ} :
    ∀ {idx : ℕ} (es : List (String × String)), idx ≤ size + 1 →
      ((cStrLoop size idx es).2 ≤ size + 1 ↔
        ∀ k < es.length, idx + ((es.take k).map fun e => entryLength e.1 e.2).sum < size →
          idx + ((es.take (k + 1)).map fun e => entryLength e.1 e.2).sum ≤ size + 1)
  | idx, [], h => by simpa [cStrLoop] using h
  | idx, (name, value) :: es, h => by
    have hn : 10 ≤ entryLength name value := by unfold entryLength; omega
    simp only [List.length_cons, Nat.forall_lt_succ_left, List.take_succ_cons, List.take_zero,
      List.map_cons, List.map_nil, List.sum_cons, List.sum_nil]
    by_cases hs : size > idx
    · rw [cStrLoop, if_pos hs]
      dsimp only
      rw [if_neg (by omega)]
      by_cases hl : idx + entryLength name value ≤ size + 1
      · rw [cStrLoop_le_iff es hl]
        simp only [Nat.add_assoc, Nat.add_zero]
        exact ⟨fun h' => ⟨fun _ => hl, h'⟩, And.right⟩
      · have := le_cStrLoop size (idx + entryLength name value) es
        exact iff_of_false (by omega) fun h' => hl (by simpa using h'.1 hs)
    · rw [cStrLoop, if_neg hs]
      exact iff_of_true h ⟨fun h' => absurd h' hs, fun k _ h' => absurd h' (by omega)⟩

/-- A 12-byte property line in a 10-byte buffer: the closing write starts at offset 12. -/
theorem c_str_writes_past_buffer :
    (Config.empty.setValue "k" "v").cStr 10 = [⟨0, 10⟩, ⟨2, 8⟩, ⟨12, 2 ^ 64 - 2⟩] ∧
    ¬ Write.InBounds 10 ⟨12, 2 ^ 64 - 2⟩ := by
  decide

end Config

end TickTock
