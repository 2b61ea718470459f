import I2cTopology.Bus.Simulation
import Mathlib.Data.List.GetD

/-!
# Register files, position by position

- `store_apply`: what a register holds after a run of bytes that is no longer than the register file;
- `load_eq_map`: what a read of any length finds, wrapping around as often as it has to.
-/

namespace I2cTopology.Registers

theorem store_apply (data : List UInt8) (regs : Registers) (register r : UInt8) (h : data.length ≤ 256) :
    regs.store register data r = data.getD (r - register).toNat (regs r) := by
  induction data generalizing regs register with
  | nil => rfl
  | cons b bs ih =>
    rw [List.length_cons] at h
    rw [store, ih _ _ (by omega)]
    by_cases hr : r = register
    · subst hr
      -- the rest starts one register on, so its last possible byte is the one before this
      have hlast : (r - (r + 1)).toNat = 255 := by
        rw [UInt8.toNat_sub, UInt8.toNat_add]
        have := r.toNat_lt
        simp only [UInt8.toNat_one]
        omega
      rw [hlast, List.getD_eq_default _ _ (by omega)]
      simp [set]
    · have hne : r.toNat ≠ register.toNat := fun e => hr (UInt8.toNat.inj e)
      have hnext : (r - register).toNat = (r - (register + 1)).toNat + 1 := by
        rw [UInt8.toNat_sub, UInt8.toNat_sub, UInt8.toNat_add]
        have := r.toNat_lt
        have := register.toNat_lt
        simp only [UInt8.toNat_one]
        omega
      rw [hnext, List.getD_cons_succ]
      simp [set, hr]

theorem load_eq_map (regs : Registers) (n : Nat) (register : UInt8) :
    regs.load register n = (List.range n).map fun j => regs (register + UInt8.ofNat j) := by
  induction n generalizing register with
  | zero => rfl
  | succ n ih =>
    rw [load, ih, List.range_succ_eq_map, List.map_cons, List.map_map]
    congr 1
    · simp
    · refine List.map_congr_left fun j _ => ?_
      show regs (register + 1 + UInt8.ofNat j) = regs (register + UInt8.ofNat (j + 1))
      rw [UInt8.ofNat_add, UInt8.add_assoc, UInt8.add_comm (UInt8.ofNat j)]
      rfl

end I2cTopology.Registers
