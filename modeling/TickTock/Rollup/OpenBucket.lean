import TickTock.Rollup.Bucketing

/-! # The open bucket

After a run the last point's bucket is still open: `query` reports it and `flush` hands it
out, both from the run invariant's `current` field. -/

namespace TickTock

namespace RollupManager

variable {V : Type} [LinearOrder V] [Zero V] [Add V] {I : ℕ} {pts : List (Point V)}
  {p : Point V}

theorem acc_run (hpts : InOrder I pts) (hlast : pts.getLast? = some p) :
    let m := run init (pts.map Point.op)
    m.cnt = (bucketValues I pts (p.bucket I)).length % 2 ^ 32 ∧
      m.min = (bucketValues I pts (p.bucket I)).foldl Min.min 0 ∧
      m.max = (bucketValues I pts (p.bucket I)).getLastD 0 ∧
      m.sum = (bucketValues I pts (p.bucket I)).foldl (· + ·) 0 := by
  have h := (law_run hpts hlast).current
  rw [aggregate_eq] at h
  simpa only [acc, Prod.mk.injEq] using h

/-- After a run, `query` reports the last point's bucket with its aggregate. -/
theorem query_after_run [Div V] [NatCast V] (hpts : InOrder I pts)
    (hlast : pts.getLast? = some p) (type : RollupType) :
    (run init (pts.map Point.op)).query type =
      if (bucketValues I pts (p.bucket I)).length % 2 ^ 32 = 0 then none
      else some (p.bucket I, match type with
        | .avg => (bucketValues I pts (p.bucket I)).foldl (· + ·) 0 /
            (((bucketValues I pts (p.bucket I)).length % 2 ^ 32 : ℕ) : V)
        | .cnt => (((bucketValues I pts (p.bucket I)).length % 2 ^ 32 : ℕ) : V)
        | .max => (bucketValues I pts (p.bucket I)).getLastD 0
        | .min => (bucketValues I pts (p.bucket I)).foldl Min.min 0
        | .sum => (bucketValues I pts (p.bucket I)).foldl (· + ·) 0) := by
  obtain ⟨hc, hmin, hmax, hsum⟩ := acc_run hpts hlast
  simp only [query, hc, hmin, hmax, hsum, (law_run hpts hlast).tstamp]
  split_ifs <;> cases type <;> rfl

theorem query_after_run_two_files :
    let pts : List (Point ℤ) := [⟨⟨0, 100, 10⟩, 5, 1⟩, ⟨⟨100, 200, 10⟩, 115, 2⟩]
    let p : Point ℤ := ⟨⟨100, 200, 10⟩, 115, 2⟩
    InOrder 10 pts ∧ pts.getLast? = some p ∧
      (run init (pts.map Point.op)).query .sum =
        if (bucketValues 10 pts (p.bucket 10)).length % 2 ^ 32 = 0 then none
        else some (p.bucket 10, (bucketValues 10 pts (p.bucket 10)).foldl (· + ·) 0) :=
  have hin : InOrder 10 [(⟨⟨0, 100, 10⟩, 5, 1⟩ : Point ℤ), ⟨⟨100, 200, 10⟩, 115, 2⟩] :=
    ⟨by decide, by decide, by simp [Point.Follows]⟩
  ⟨hin, rfl, query_after_run hin rfl .sum⟩

/-- Flushing after a run hands out the open bucket and resets the accumulators. -/
theorem flush_after_run (hpts : InOrder I pts) (hlast : pts.getLast? = some p) :
    (run init (pts.map Point.op ++ [.flush])).emitted =
      (run init (pts.map Point.op)).emitted ++
        [⟨p.tsdb, p.bucket I, (bucketValues I pts (p.bucket I)).length % 2 ^ 32,
          (bucketValues I pts (p.bucket I)).foldl Min.min 0,
          (bucketValues I pts (p.bucket I)).getLastD 0,
          (bucketValues I pts (p.bucket I)).foldl (· + ·) 0⟩] ∧
      (run init (pts.map Point.op ++ [.flush])).tstamp = some (p.bucket I) ∧
      (run init (pts.map Point.op ++ [.flush])).acc = (0, 0, 0, 0) := by
  have h := law_run hpts hlast
  obtain ⟨hc, hmin, hmax, hsum⟩ := acc_run hpts hlast
  have e : run init (pts.map Point.op ++ [.flush]) = (run init (pts.map Point.op)).flush := by
    simp only [run, List.foldl_append, List.foldl_cons, List.foldl_nil, step]
  rw [e, flush_of_some h.tstamp h.tsdb]
  exact ⟨by rw [hc, hmin, hmax, hsum], h.tstamp, rfl⟩

theorem flush_after_run_two_files :
    let pts : List (Point ℤ) := [⟨⟨0, 100, 10⟩, 5, 1⟩, ⟨⟨100, 200, 10⟩, 115, 2⟩]
    let p : Point ℤ := ⟨⟨100, 200, 10⟩, 115, 2⟩
    InOrder 10 pts ∧ pts.getLast? = some p ∧
      (run init (pts.map Point.op ++ [.flush])).emitted =
        (run init (pts.map Point.op)).emitted ++
          [⟨p.tsdb, p.bucket 10, (bucketValues 10 pts (p.bucket 10)).length % 2 ^ 32,
            (bucketValues 10 pts (p.bucket 10)).foldl Min.min 0,
            (bucketValues 10 pts (p.bucket 10)).getLastD 0,
            (bucketValues 10 pts (p.bucket 10)).foldl (· + ·) 0⟩] ∧
        (run init (pts.map Point.op ++ [.flush])).tstamp = some (p.bucket 10) ∧
        (run init (pts.map Point.op ++ [.flush])).acc = (0, 0, 0, 0) :=
  have hin : InOrder 10 [(⟨⟨0, 100, 10⟩, 5, 1⟩ : Point ℤ), ⟨⟨100, 200, 10⟩, 115, 2⟩] :=
    ⟨by decide, by decide, by simp [Point.Follows]⟩
  ⟨hin, rfl, flush_after_run hin rfl⟩

end RollupManager

end TickTock
