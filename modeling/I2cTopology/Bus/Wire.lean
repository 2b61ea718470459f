import I2cTopology.Bus.Fault

/-!
# Transactions on a wire

`Wire` is the one contract that a platform has to meet: it runs one transaction at a time. Clocking, acknowledges and
the switching of ports are its own affair.
-/

namespace I2cTopology

/-- The kind of a transaction. -/
inductive Op where
  /-- A write and, after a repeated start, a read; either may be empty. -/
  | writeRead
  /-- A write and a block read, whose first byte on the wire is a count. -/
  | writeReadBlock
deriving DecidableEq

/-- One transaction as it is put on a wire. -/
structure Exchange where
  controller : Controller
  port : PortIndex
  address : UInt8
  op : Op
  write : List UInt8
deriving DecidableEq

/-- The bytes that a read fills from the front. -/
abbrev Buffer := List UInt8

/-- The outcome of a transaction: the number of bytes read or a failure, and the buffer as it was left. -/
structure Reply (ε : Type) where
  result : Except ε Nat
  buffer : Buffer

/-- States of a platform's wire, on which transactions can be run. -/
class Wire (σ : Type) where
  transact : σ → Exchange → Buffer → Reply BusFault × σ

end I2cTopology
