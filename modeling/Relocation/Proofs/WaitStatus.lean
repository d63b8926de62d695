import Relocation.WaitStatus

/-!
# The bits of a wait status

The low seven bits of a wait status tell how a process ended. If they are clear it exited,
with the code in the second byte; if they are not all set either, they are the signal
that killed it. Bit seven, which marks a core image, and the upper half are in neither
part. The exit status is read off these two parts, and no bit of them is lost in it.
-/

namespace Relocation.WaitStatus

variable {status : WaitStatus} {code signal : Nat}

/-- Whether the process exited with a code. -/
def ExitedWith (status : WaitStatus) (code : Nat) : Prop :=
  status.bits.toNat % 128 = 0 ∧ status.bits.toNat / 256 % 256 = code

/-- Whether a signal killed the process, be it with a core image or without. -/
def KilledBy (status : WaitStatus) (signal : Nat) : Prop :=
  status.bits.toNat % 128 = signal ∧ 0 < signal ∧ signal < 127

instance : Decidable (status.ExitedWith code) := inferInstanceAs (Decidable (_ ∧ _))

instance : Decidable (status.KilledBy signal) := inferInstanceAs (Decidable (_ ∧ _))

/-- The low seven bits of a status as a number. -/
theorem toNat_low (status : WaitStatus) :
    (status.bits &&& 0x7f).toNat = status.bits.toNat % 128 := by
  have hmask : status.bits.toNat &&& 127 = status.bits.toNat % 128 :=
    Nat.and_two_pow_sub_one_eq_mod _ 7
  simpa using hmask

/-- The low seven bits of a status are given by their number. -/
theorem low_eq_iff {low : UInt32} :
    status.bits &&& 0x7f = low ↔ status.bits.toNat % 128 = low.toNat := by
  rw [← UInt32.toNat_inj, toNat_low]

/-- The second byte of a status as a number. -/
theorem toNat_secondByte (status : WaitStatus) :
    (status.bits >>> 8).toUInt8.toNat = status.bits.toNat / 256 % 256 := by
  simp [Nat.shiftRight_eq_div_pow]

/-- A status gives the code with which the process exited. -/
theorem code?_eq_some_iff {code : UInt8} :
    status.code? = some code ↔ status.ExitedWith code.toNat := by
  simp only [code?, ExitedWith, low_eq_iff, UInt32.toNat_zero, ← toNat_secondByte,
    UInt8.toNat_inj]
  split <;> simp_all

/-- A status gives the signal that killed the process. -/
theorem signal?_eq_some_iff : status.signal? = some signal ↔ status.KilledBy signal := by
  simp only [signal?, KilledBy, low_eq_iff, toNat_low, UInt32.toNat_zero, UInt32.reduceToNat]
  split
  · simp only [reduceCtorEq, false_iff]
    omega
  · rw [Option.some.injEq]
    constructor
    · rintro rfl
      omega
    · exact fun h => h.1

/-- The exit status of a process that exited is its code. -/
theorem ExitedWith.toNat_exitStatus (h : status.ExitedWith code) :
    status.exitStatus.toNat = code := by
  have hlt : code < 256 := by
    rw [← h.2]
    exact Nat.mod_lt _ (by decide)
  have htoNat : (UInt8.ofNat code).toNat = code := UInt8.toNat_ofNat_of_lt' hlt
  have hcode : status.code? = some (UInt8.ofNat code) := code?_eq_some_iff.mpr (by rwa [htoNat])
  simp [exitStatus, hcode, htoNat]

/-- The exit status of a process that a signal killed is 128 more than the signal. -/
theorem KilledBy.toNat_exitStatus (h : status.KilledBy signal) :
    status.exitStatus.toNat = 128 + signal := by
  have hcode : status.code? = none := by
    refine Option.eq_none_iff_forall_ne_some.mpr fun code hcode => ?_
    have hclear := (code?_eq_some_iff.mp hcode).1
    obtain ⟨hlow, hpos, _⟩ := h
    omega
  have hsignal : status.signal? = some signal := signal?_eq_some_iff.mpr h
  have hlt := h.2.2
  simp [exitStatus, hcode, hsignal]
  omega

/-- The exit status of a process that neither exited nor was killed is 255. -/
theorem exitStatus_of_neither (hexited : ∀ code, ¬ status.ExitedWith code)
    (hkilled : ∀ signal, ¬ status.KilledBy signal) : status.exitStatus = 255 := by
  have hcode : status.code? = none :=
    Option.eq_none_iff_forall_ne_some.mpr fun code h => hexited _ (code?_eq_some_iff.mp h)
  have hsignal : status.signal? = none :=
    Option.eq_none_iff_forall_ne_some.mpr fun signal h => hkilled _ (signal?_eq_some_iff.mp h)
  simp [exitStatus, hcode, hsignal]

/-- The exit status is zero exactly for a process that exited with code zero. -/
theorem exitStatus_eq_zero_iff : status.exitStatus = 0 ↔ status.ExitedWith 0 := by
  rw [← UInt8.toNat_inj, UInt8.toNat_zero]
  refine ⟨fun hzero => ?_, ExitedWith.toNat_exitStatus⟩
  by_cases hexited : ∃ code, status.ExitedWith code
  · obtain ⟨code, hcode⟩ := hexited
    rwa [← hzero, hcode.toNat_exitStatus]
  · by_cases hkilled : ∃ signal, status.KilledBy signal
    · obtain ⟨signal, hsignal⟩ := hkilled
      rw [hsignal.toNat_exitStatus] at hzero
      omega
    · rw [exitStatus_of_neither (not_exists.mp hexited) (not_exists.mp hkilled)] at hzero
      cases hzero

/-- The exit status does not depend on the bit that marks a core image. -/
theorem exitStatus_or_core (status : WaitStatus) :
    (WaitStatus.mk (status.bits ||| 0x80)).exitStatus = status.exitStatus := by
  have hlow : (status.bits.toNat ||| 128) % 128 = status.bits.toNat % 128 := by
    simpa using @Nat.or_mod_two_pow status.bits.toNat 128 7
  have hsecond : (status.bits.toNat ||| 128) / 256 = status.bits.toNat / 256 := by
    simpa [Nat.shiftRight_eq_div_pow] using
      @Nat.shiftRight_or_distrib 8 status.bits.toNat 128
  have hcode : (WaitStatus.mk (status.bits ||| 0x80)).code? = status.code? := by
    ext code
    simp [code?_eq_some_iff, ExitedWith, hlow, hsecond]
  have hsignal : (WaitStatus.mk (status.bits ||| 0x80)).signal? = status.signal? := by
    ext signal
    simp [signal?_eq_some_iff, KilledBy, hlow]
  rw [exitStatus, hcode, hsignal, exitStatus]

end Relocation.WaitStatus
