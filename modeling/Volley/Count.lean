/-!
# Counts

The total of a list of counts, and the bounds of the words in which counts are kept.
-/

namespace Volley

/-- One past the largest word of 16 bits. -/
def word16Bound : Nat := 0x10000

/-- One past the largest word of 32 bits. -/
def word32Bound : Nat := 0x100000000

/-- One past the largest word of 64 bits. -/
def word64Bound : Nat := 0x10000000000000000

/-- One past the largest word of 128 bits. -/
def word128Bound : Nat := 0x100000000000000000000000000000000

/-- One past the largest signed word of 64 bits. -/
def int64Bound : Nat := 0x8000000000000000

/-- The total of counts. Its zero is given by name, since there is more than one way to find it. -/
def total (counts : List Nat) : Nat :=
  @List.sum Nat _ Zero.ofOfNat0 counts

@[simp] theorem total_nil : total [] = 0 := rfl

@[simp] theorem total_cons (n : Nat) (counts : List Nat) :
    total (n :: counts) = n + total counts := rfl

/-- The total of two lists is the sum of their totals. -/
@[simp] theorem total_append (a b : List Nat) : total (a ++ b) = total a + total b :=
  List.sum_append_nat

/-- The order of counts does not change their total. -/
theorem total_perm {a b : List Nat} (h : a.Perm b) : total a = total b :=
  h.sum_nat

end Volley
