/-
# Memory

A thousand cells with the addresses 0 to 999. An access outside them has no
answer here; what the machine makes of one is decided where it is performed.
-/

import DecimalComputer.Cell

namespace DecimalComputer

/-- How many cells there are. -/
@[simp] abbrev Memory.capacity : Nat := 1000

/-- The cells with addresses 0 to 999. -/
abbrev Memory := Vector Cell Memory.capacity

namespace Memory

/-- Memory of zeros. -/
def zeros : Memory := Vector.replicate capacity 0

/-- Cells from address 0 on and zeros behind them. Cells beyond the last address are left out. -/
def ofCells (cells : List Cell) : Memory :=
  let loaded := cells.toArray
  Vector.ofFn fun address => loaded.getD address 0

/-- The cell at an address, if there is one. -/
def read? (memory : Memory) (address : UInt32) : Option Cell := memory[address.toNat]?

/-- Memory with one cell replaced, if there is one at that address. -/
def write? (memory : Memory) (address : UInt32) (cell : Cell) : Option Memory :=
  if h : address.toNat < capacity then some (memory.set address.toNat cell h) else none

theorem getElem_ofCells (cells : List Cell) (address : Nat) (h : address < 1000) :
    (ofCells cells)[address] = cells.getD address 0 := by
  simp [ofCells]

/-- Loaded memory is read as it was loaded. -/
theorem read?_ofCells (cells : List Cell) {address : UInt32} (h : address.toNat < 1000) :
    (ofCells cells).read? address = some (cells.getD address.toNat 0) := by
  rw [read?, Vector.getElem?_eq_getElem h, getElem_ofCells]

@[simp] theorem ofCells_nil : ofCells [] = zeros := by
  ext address h
  simp [getElem_ofCells, zeros]

/-- Exactly the addresses from 1000 on have no cell. -/
theorem read?_eq_none_iff (memory : Memory) (address : UInt32) :
    memory.read? address = none ↔ 1000 ≤ address.toNat := by
  simp [read?]

/-- Reading and writing agree on which addresses there are. -/
theorem write?_eq_none_iff (memory : Memory) (address : UInt32) (cell : Cell) :
    memory.write? address cell = none ↔ 1000 ≤ address.toNat := by
  simp [write?]

/-- A write replaces the cell at its address and keeps every other. -/
theorem getElem_of_write?_eq_some {memory after : Memory} {address : UInt32} {cell : Cell}
    (h : memory.write? address cell = some after) (place : Nat) (inside : place < 1000) :
    after[place] = if address.toNat = place then cell else memory[place] := by
  unfold write? at h
  split at h
  · cases h
    rw [Vector.getElem_set]
  · cases h

end Memory

end DecimalComputer
