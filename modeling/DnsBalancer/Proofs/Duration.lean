import DnsBalancer.Duration

/-!
# Whole milliseconds

Timers go off at whole milliseconds, the first that is not before their time. One that is set for
a whole millisecond takes its time, and any other a little longer.
-/
namespace DnsBalancer.Duration

section

variable {a b d : Duration}

theorem eq_iff : a = b ↔ a.nanos = b.nanos :=
  ⟨congrArg nanos, fun same => by cases a; cases b; cases same; rfl⟩

theorem le_iff : a ≤ b ↔ a.nanos ≤ b.nanos := Iff.rfl

theorem lt_iff : a < b ↔ a.nanos < b.nanos := Iff.rfl

theorem le_total (a b : Duration) : a ≤ b ∨ b ≤ a := Nat.le_total a.nanos b.nanos

@[simp] theorem nanos_zero : zero.nanos = 0 := rfl

@[simp] theorem nanos_add : (a + b).nanos = a.nanos + b.nanos := rfl

@[simp] theorem nanos_since : (a.since b).nanos = a.nanos - b.nanos := rfl

@[simp] theorem nanos_longer : (a.longer b).nanos = max a.nanos b.nanos := by
  rw [longer, apply_ite nanos, Nat.max_def]

@[simp] theorem nanos_shorter : (a.shorter b).nanos = min a.nanos b.nanos := by
  rw [shorter, apply_ite nanos, Nat.min_def]

theorem shorter_eq_right (shorter : b ≤ a) : a.shorter b = b :=
  eq_iff.mpr (nanos_shorter.trans (Nat.min_eq_right shorter))

theorem nanos_nextMilli : d.nextMilli.nanos = (d.nanos + 999999) / 1000000 * 1000000 := rfl

theorem add_zero : a + zero = a := rfl

theorem add_assoc {a b c : Duration} : a + b + c = a + (b + c) :=
  eq_iff.mpr (Nat.add_assoc ..)

theorem add_of_isZero (instantly : d.isZero = true) : a + d = a := by
  have nothing : d.nanos = 0 := by simpa [isZero] using instantly
  rw [eq_iff, nanos_add, nothing, Nat.add_zero]

theorem lt_add (lasting : d.isZero = false) : a < a + d := by
  have something : d.nanos ≠ 0 := by simpa [isZero] using lasting
  exact Nat.lt_add_of_pos_right (Nat.pos_of_ne_zero something)

theorem add_since (later : b ≤ a) : b + a.since b = a := by
  rw [eq_iff, nanos_add, nanos_since]
  exact Nat.add_sub_of_le later

theorem since_add : (a + d).since a = d := by
  rw [eq_iff, nanos_since, nanos_add, Nat.add_sub_cancel_left]

theorem since_self : a.since a = zero := by
  rw [eq_iff, nanos_since, Nat.sub_self, nanos_zero]

end

def OnMilli (d : Duration) : Prop := 1000000 ∣ d.nanos

instance (d : Duration) : Decidable d.OnMilli := inferInstanceAs (Decidable (1000000 ∣ d.nanos))

section

variable {a d : Duration}

theorem le_nextMilli (d : Duration) : d ≤ d.nextMilli := by
  rw [le_iff, nanos_nextMilli]
  omega

theorem add_timer : a + a.timer d = (a + d).nextMilli :=
  add_since (Nat.le_trans (Nat.le_add_right ..) (le_nextMilli (a + d)))

theorem nextMilli_mono {a b : Duration} (earlier : a ≤ b) : a.nextMilli ≤ b.nextMilli := by
  rw [le_iff] at earlier
  rw [le_iff, nanos_nextMilli, nanos_nextMilli]
  exact Nat.mul_le_mul_right _ (Nat.div_le_div_right (Nat.add_le_add_right earlier _))

theorem nextMilli_eq_self (whole : d.OnMilli) : d.nextMilli = d := by
  obtain ⟨n, times⟩ := whole
  rw [eq_iff, nanos_nextMilli]
  omega

theorem nextMilli_le_iff (whole : a.OnMilli) : d.nextMilli ≤ a ↔ d ≤ a := by
  obtain ⟨n, times⟩ := whole
  rw [le_iff, le_iff, nanos_nextMilli]
  omega

/-- A timer for a whole millisecond takes no longer than it is set for. -/
theorem timer_eq_self (whole : (a + d).OnMilli) : a.timer d = d := by
  rw [timer, nextMilli_eq_self whole, since_add]

end

end DnsBalancer.Duration
