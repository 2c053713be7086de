import BoardConsole.Error

/-!
# Storage — The byte store

A fixed number of bytes, all `FF` when fresh or erased. Reading and writing past the end fail and
change nothing.
-/

namespace BoardConsole

/-- The emulated byte store. -/
structure Storage where
  bytes : List UInt8
deriving DecidableEq, Repr

namespace Storage

/-- The value of a byte that was never written. -/
def erased : UInt8 := 0xFF

/-- A fresh store of `size` bytes. -/
def fresh (size : Nat) : Storage := ⟨List.replicate size erased⟩

def size (s : Storage) : Nat := s.bytes.length

/-- The byte at an address. -/
def read (s : Storage) (address : Nat) : Except HostError UInt8 :=
  match s.bytes[address]? with
  | some b => .ok b
  | none   => .error (.addressOutOfRange address s.size)

/-- Writes one byte. -/
def write (s : Storage) (address : Nat) (b : UInt8) : Except HostError Storage :=
  if address < s.size then .ok ⟨s.bytes.set address b⟩
  else .error (.addressOutOfRange address s.size)

/-- Writes a run of bytes from an address on; what would pass the end is dropped. -/
def blit (s : Storage) (address : Nat) (bytes : List UInt8) : Storage :=
  ⟨(s.bytes.take address ++ bytes ++ s.bytes.drop (address + bytes.length)).take s.size⟩

/-- Every byte as when fresh. -/
def eraseAll (s : Storage) : Storage := fresh s.size

@[simp] theorem size_fresh (n : Nat) : (fresh n).size = n := List.length_replicate

@[simp] theorem size_eraseAll (s : Storage) : s.eraseAll.size = s.size := size_fresh _

end Storage

end BoardConsole
