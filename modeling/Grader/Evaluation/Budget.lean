/-! The time that the runs of one submission may take together, in milliseconds. Sums and products
of 64 bits stay at the greatest number instead of passing it. -/
namespace Grader.Budget

def saturate (n : Nat) : UInt64 := if n < UInt64.size then .ofNat n else .ofNat (UInt64.size - 1)

/-- Each case may take its time limit and the margin, all together at most the maximum. -/
def ofCases (count : Nat) (timeLimitMs marginMs maxMs : UInt64) : UInt64 :=
  let perCase := saturate (timeLimitMs.toNat + marginMs.toNat)
  min (saturate (perCase.toNat * count)) maxMs

end Grader.Budget
