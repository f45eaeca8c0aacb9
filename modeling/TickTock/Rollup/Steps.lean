import TickTock.Rollup.Manager

/-! # One call of `add_data_point`

A point of the current bucket accumulates, one of a later bucket flushes and fills the gap,
one of a later Tsdb also rebinds. One lemma per case, so the run lemmas never unfold the loops. -/

namespace TickTock

namespace RollupManager

variable {V : Type} [Zero V]

/-- The empty aggregates the gap-filling loops hand to `T` below `hi`. -/
def blanks (T : Tsdb) (I lo hi : ℕ) : List (RollupPoint V) :=
  (List.range' lo ((hi - lo) / I) I).map fun b => ⟨T, b, 0, 0, 0, 0⟩

theorem blanks_of_add_mul {T : Tsdb} {I lo hi n : ℕ} (hI : 0 < I) (hn : lo + I * n = hi) :
    (blanks T I lo hi : List (RollupPoint V)) =
      (List.range' lo n I).map fun b => ⟨T, b, 0, 0, 0, 0⟩ := by
  subst hn
  simp [blanks, Nat.mul_div_cancel_left _ hI]

theorem mem_blanks {T : Tsdb} {I lo hi : ℕ} {e : RollupPoint V} (hI : 0 < I) (hlo : I ∣ lo)
    (hhi : I ∣ hi) (hle : lo ≤ hi) :
    e ∈ blanks T I lo hi ↔
      (I ∣ e.tstamp ∧ lo ≤ e.tstamp ∧ e.tstamp < hi) ∧ e = ⟨T, e.tstamp, 0, 0, 0, 0⟩ := by
  obtain ⟨a, rfl⟩ := hlo
  obtain ⟨c, rfl⟩ := hhi
  have hac := Nat.le_of_mul_le_mul_left hle hI
  rw [blanks_of_add_mul (n := c - a) hI (by rw [← Nat.mul_add]; congr 1; omega)]
  simp only [List.mem_map, List.mem_range']
  constructor
  · rintro ⟨_, ⟨i, hi, rfl⟩, rfl⟩
    rw [← Nat.mul_add, Nat.mul_lt_mul_left hI]
    exact ⟨⟨⟨_, rfl⟩, Nat.mul_le_mul_left _ (by omega), by omega⟩, rfl⟩
  · rintro ⟨⟨⟨k, hk⟩, hak, hkc⟩, he⟩
    rw [hk] at hak hkc
    rw [Nat.mul_lt_mul_left hI] at hkc
    have := Nat.le_of_mul_le_mul_left hak hI
    exact ⟨I * k, ⟨k - a, by omega, by rw [← Nat.mul_add]; congr 1; omega⟩, by rw [he, hk]⟩

theorem pairwise_blanks (T : Tsdb) {I : ℕ} (hI : 0 < I) (lo hi : ℕ) :
    ((blanks T I lo hi : List (RollupPoint V)).map RollupPoint.tstamp).Pairwise (· < ·) := by
  simpa [blanks, Function.comp_def] using List.pairwise_lt_range' lo _ I hI

def Zeroed (m : RollupManager V) : Prop := m.cnt = 0 ∧ m.min = 0 ∧ m.max = 0 ∧ m.sum = 0

theorem flush_of_some {m : RollupManager V} {t : ℕ} {d : Tsdb} (ht : m.tstamp = some t)
    (hd : m.tsdb = some d) :
    m.flush = { m with emitted := m.emitted ++ [⟨d, t, m.cnt, m.min, m.max, m.sum⟩],
                       cnt := 0, min := 0, max := 0, sum := 0 } := by
  simp [flush, ht, hd]

theorem fill_eq {I bound fuel n t : ℕ} {d : Tsdb} {m : RollupManager V} (hz : Zeroed m)
    (hd : m.tsdb = some d) (ht : m.tstamp = some t) (hI : 0 < I) (hn : t + I * n = bound)
    (hfuel : n ≤ fuel) :
    fill I bound fuel m =
      { m with tstamp := some bound, emitted := m.emitted ++ blanks d I t bound } := by
  rw [blanks_of_add_mul hI hn]
  induction n generalizing t fuel m with
  | zero =>
    obtain rfl : bound = t := by omega
    cases m
    simp only at ht
    subst ht
    cases fuel <;> simp [fill]
  | succ n ih =>
    obtain ⟨fuel, rfl⟩ : ∃ f, fuel = f + 1 := ⟨fuel - 1, by omega⟩
    obtain ⟨hc, hmin, hmax, hsum⟩ := hz
    simp only [fill, ht, if_pos (show t < bound by rw [← hn, Nat.mul_succ]; omega)]
    rw [ih (m := { m.flush with tstamp := some (t + I) }) (t := t + I)
      (by simp [Zeroed, flush_of_some ht hd]) (by simp [flush_of_some ht hd, hd]) rfl
      (by rw [← hn, Nat.mul_succ]; omega) (by omega)]
    simp [flush_of_some ht hd, hc, hmin, hmax, hsum, List.range'_succ]

theorem mul_add_mul_pred {I j k : ℕ} (h : j < k) : I * j + I + I * (k - j - 1) = I * k := by
  rw [← Nat.mul_succ, ← Nat.mul_add]
  congr 1
  omega

variable {m : RollupManager V} {T T' : Tsdb} {I c b : ℕ}

theorem passTo_within (hd : m.tsdb = some T) (ht : m.tstamp = some c)
    (hI : T.rollupInterval = I) (hpos : 0 < I) (hc : I ∣ c) (hb : I ∣ b) (hcb : c < b)
    (hbT : b < T.toSec) :
    m.passTo T T' c b =
      { m with emitted := m.emitted ++ ⟨T, c, m.cnt, m.min, m.max, m.sum⟩ :: blanks T I (c + I) b,
               tstamp := some b, cnt := 0, min := 0, max := 0, sum := 0 } := by
  obtain ⟨j, rfl⟩ := hc
  obtain ⟨k, rfl⟩ := hb
  have hjk := (Nat.mul_lt_mul_left hpos).1 hcb
  have hk := Nat.le_mul_of_pos_left k hpos
  subst hI
  simp only [passTo, min_eq_right hbT.le]
  rw [fill_eq (n := k - j - 1) (d := T) (by simp [Zeroed, flush_of_some ht hd])
    (by simp [flush_of_some ht hd, hd]) rfl hpos (mul_add_mul_pred hjk) (by omega)]
  simp [flush_of_some ht hd, not_le.2 hbT]

theorem passTo_cross (hd : m.tsdb = some T) (ht : m.tstamp = some c)
    (hI : T.rollupInterval = I) (hI' : T'.rollupInterval = I) (hpos : 0 < I) (hc : I ∣ c)
    (hb : I ∣ b) (hto : I ∣ T.toSec) (hfrom : I ∣ T'.fromSec) (hcT : c < T.toSec)
    (hTb : T.toSec ≤ b) (hfb : T'.fromSec ≤ b) :
    m.passTo T T' c b =
      { m with emitted := m.emitted ++ ⟨T, c, m.cnt, m.min, m.max, m.sum⟩ ::
                 (blanks T I (c + I) T.toSec ++ blanks T' I T'.fromSec b),
               tsdb := some T', tstamp := some b, cnt := 0, min := 0, max := 0, sum := 0 } := by
  obtain ⟨j, rfl⟩ := hc
  obtain ⟨k, rfl⟩ := hb
  obtain ⟨u, hu⟩ := hto
  obtain ⟨f, hf⟩ := hfrom
  have hju : j < u := (Nat.mul_lt_mul_left hpos).1 (hu ▸ hcT)
  have hfk : f ≤ k := Nat.le_of_mul_le_mul_left (hf ▸ hfb) hpos
  have hk := Nat.le_mul_of_pos_left k hpos
  have hu' := Nat.le_mul_of_pos_left u hpos
  subst hI
  simp only [passTo, min_eq_left hTb]
  rw [fill_eq (n := u - j - 1) (d := T) (by simp [Zeroed, flush_of_some ht hd])
    (by simp [flush_of_some ht hd, hd]) rfl hpos (by rw [hu]; exact mul_add_mul_pred hju)
    (by omega)]
  simp only [Option.getD_some, le_refl, if_true]
  rw [fill_eq (n := k - f) (d := T') (by simp [Zeroed, flush_of_some ht hd]) rfl rfl
    (hI' ▸ hpos) (by rw [hI', hf, ← Nat.mul_add, Nat.add_sub_cancel' hfk]) (by omega)]
  simp [flush_of_some ht hd, hI']

section Accumulate

variable [LinearOrder V] [Add V]

omit [Zero V] in
@[simp] theorem accumulate_emitted (m : RollupManager V) (v : V) :
    (m.accumulate v).emitted = m.emitted := rfl

omit [Zero V] in
@[simp] theorem accumulate_tsdb (m : RollupManager V) (v : V) : (m.accumulate v).tsdb = m.tsdb :=
  rfl

omit [Zero V] in
@[simp] theorem accumulate_tstamp (m : RollupManager V) (v : V) :
    (m.accumulate v).tstamp = m.tstamp := rfl

/-- On a manager bound to `T` and sitting on bucket `c`, a point at `t` passes to its bucket
`t - t % I` unless that is `c`, and accumulates. -/
theorem addDataPoint_eq (hd : m.tsdb = some T) (ht : m.tstamp = some c) (t : ℕ) (v : V) :
    m.addDataPoint T' t v =
      (if c ≠ t - t % T.rollupInterval then m.passTo T T' c (t - t % T.rollupInterval)
        else m).accumulate v := by
  have hm : { m with tsdb := some T, tstamp := some c } = m := by cases m; simp_all
  simp only [addDataPoint, hd, ht, Option.getD_some, hm]

theorem addDataPoint_same (hd : m.tsdb = some T) (ht : m.tstamp = some c) {t : ℕ}
    (hb : t - t % T.rollupInterval = c) (v : V) : m.addDataPoint T' t v = m.accumulate v := by
  simp [addDataPoint_eq hd ht, hb]

theorem addDataPoint_within (hd : m.tsdb = some T) (ht : m.tstamp = some c)
    (hI : T.rollupInterval = I) (hpos : 0 < I) (hc : I ∣ c) {t : ℕ} (hcb : c < t - t % I)
    (hbT : t - t % I < T.toSec) (v : V) :
    m.addDataPoint T' t v =
      accumulate { m with emitted := m.emitted ++ ⟨T, c, m.cnt, m.min, m.max, m.sum⟩ ::
                              blanks T I (c + I) (t - t % I),
                            tstamp := some (t - t % I),
                            cnt := 0, min := 0, max := 0, sum := 0 } v := by
  rw [addDataPoint_eq hd ht, hI, if_pos hcb.ne,
    passTo_within hd ht hI hpos hc (Nat.dvd_sub_mod t) hcb hbT]

theorem addDataPoint_cross (hd : m.tsdb = some T) (ht : m.tstamp = some c)
    (hI : T.rollupInterval = I) (hI' : T'.rollupInterval = I) (hpos : 0 < I) (hc : I ∣ c)
    (hto : I ∣ T.toSec) (hfrom : I ∣ T'.fromSec) (hcT : c < T.toSec) {t : ℕ}
    (hTb : T.toSec ≤ t - t % I) (hfb : T'.fromSec ≤ t - t % I) (v : V) :
    m.addDataPoint T' t v =
      accumulate { m with emitted := m.emitted ++ ⟨T, c, m.cnt, m.min, m.max, m.sum⟩ ::
                              (blanks T I (c + I) T.toSec ++ blanks T' I T'.fromSec (t - t % I)),
                            tsdb := some T', tstamp := some (t - t % I),
                            cnt := 0, min := 0, max := 0, sum := 0 } v := by
  rw [addDataPoint_eq hd ht, hI, if_pos (by omega),
    passTo_cross hd ht hI hI' hpos hc (Nat.dvd_sub_mod t) hto hfrom hcT hTb hfb]

end Accumulate

end RollupManager

end TickTock
