import AccessControl.Bytes

/-!
# The order of numbered keys

Numbers that are written with the most significant octet first, all in the same count of octets, are
ordered as octets in the way in which they are ordered as numbers. The same holds behind a common
beginning, so the keys of an index stand in the order of the numbers at their ends.
-/

namespace AccessControl.Bytes

/-- A common beginning does not matter to the order. -/
theorem compare_append_left (start first second : Bytes) :
    compare (start ++ first) (start ++ second) = compare first second := by
  induction start with
  | nil => rfl
  | cons octet start ih =>
    rw [List.cons_append, List.cons_append, List.compare_cons_cons, Std.ReflOrd.compare_self,
      Ordering.eq_then, ih]

/-- Behind beginnings of the same length, the last octet decides only if they are equal. -/
theorem compare_append_singleton {first second : Bytes} (h : first.length = second.length)
    (last last' : UInt8) :
    compare (first ++ [last]) (second ++ [last']) =
      (compare first second).then (compare last last') := by
  induction first generalizing second with
  | nil =>
    obtain rfl := List.eq_nil_of_length_eq_zero h.symm
    simp [List.compare_cons_cons]
  | cons octet first ih =>
    cases second with
    | nil => cases h
    | cons octet' second =>
      rw [List.cons_append, List.cons_append, List.compare_cons_cons, List.compare_cons_cons,
        ih (Nat.succ.inj h), Ordering.then_assoc]

/-- **Written numbers are ordered as numbers are.** -/
theorem compare_bigEndian {width first second : Nat} (h : first < second)
    (hsecond : second < capacity width) :
    compare (bigEndian width first) (bigEndian width second) = .lt := by
  induction width generalizing first second with
  | zero =>
    rw [capacity] at hsecond
    omega
  | succ width ih =>
    rw [capacity] at hsecond
    rw [bigEndian, bigEndian, compare_append_singleton (by simp)]
    rcases Nat.lt_or_ge (first / 256) (second / 256) with hlt | hge
    · rw [ih hlt (by omega), Ordering.lt_then]
    · have hsame : first / 256 = second / 256 := by omega
      have hlast : UInt8.ofNat first < UInt8.ofNat second := by
        rw [UInt8.lt_iff_toNat_lt, UInt8.toNat_ofNat', UInt8.toNat_ofNat']
        omega
      rw [hsame, Std.ReflOrd.compare_self, Ordering.eq_then]
      exact Std.compare_eq_lt.mpr hlast

end AccessControl.Bytes
