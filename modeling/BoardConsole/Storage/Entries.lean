import BoardConsole.Storage
import BoardConsole.Text.Utf8

/-!
# Storage — Stored macros

The storage holds macros packed from address zero on, each as its name, a NUL, its body and a NUL.
They end at the first place where an entry would begin with an erased byte or lacks one of its two
NULs. Removing an entry moves the later ones down and erases the bytes that become free; defining
one that exists removes it and appends the new one.
-/

namespace BoardConsole

/-- A stored macro and where it lies. -/
structure MacroEntry where
  name   : String
  body   : String
  offset : Nat
  /-- The bytes it takes, both NULs included. -/
  length : Nat
deriving DecidableEq, Repr

namespace Storage
open Text

/-- The bytes before the first NUL and those after it. -/
def untilNul : List UInt8 → Option (List UInt8 × List UInt8)
  | []        => none
  | b :: rest =>
    if b = 0 then some ([], rest)
    else (untilNul rest).map fun (field, rest) => (b :: field, rest)

/-- The name and the body of the entry that the bytes begin with, and the bytes after it. -/
def splitEntry (bytes : List UInt8) : Option (List UInt8 × List UInt8 × List UInt8) :=
  if bytes.head? = some erased then none
  else
    match untilNul bytes with
    | none              => none
    | some (name, rest) => (untilNul rest).map fun (body, rest) => (name, body, rest)

theorem length_untilNul {bytes field rest : List UInt8} (h : untilNul bytes = some (field, rest)) :
    field.length + rest.length + 1 = bytes.length := by
  induction bytes generalizing field with
  | nil => simp [untilNul] at h
  | cons b bytes ih =>
    rw [untilNul] at h
    split at h
    · simp only [Option.some.injEq, Prod.mk.injEq] at h
      simp [← h.1, ← h.2]
    · obtain ⟨⟨f, r⟩, hf, hr⟩ := Option.map_eq_some_iff.1 h
      simp only [Prod.mk.injEq] at hr
      have := ih (hr.2 ▸ hf)
      simp only [← hr.1, List.length_cons]
      omega

theorem length_splitEntry {bytes name body rest : List UInt8}
    (h : splitEntry bytes = some (name, body, rest)) :
    name.length + body.length + 2 + rest.length = bytes.length := by
  unfold splitEntry at h
  split at h
  · simp at h
  · split at h
    · simp at h
    · rename_i n r hn
      obtain ⟨⟨b, r'⟩, hb, hr⟩ := Option.map_eq_some_iff.1 h
      simp only [Prod.mk.injEq] at hr
      have h₁ := length_untilNul hn
      have h₂ := length_untilNul hb
      rw [← hr.1, ← hr.2.1, ← hr.2.2]
      omega

/-- The entries of bytes that begin at an address, and the address where they end. -/
def scanFrom (offset : Nat) (bytes : List UInt8) : List MacroEntry × Nat :=
  match _h : splitEntry bytes with
  | none => ([], offset)
  | some (name, body, rest) =>
    let length := name.length + body.length + 2
    let (entries, fin) := scanFrom (offset + length) rest
    (⟨Utf8.decode name, Utf8.decode body, offset, length⟩ :: entries, fin)
termination_by bytes.length
decreasing_by
  have := length_splitEntry _h
  omega

/-- Every stored macro, in the order of addresses. -/
def entries (s : Storage) : List MacroEntry := (scanFrom 0 s.bytes).1

/-- The number of bytes that the macros take. -/
def used (s : Storage) : Nat := (scanFrom 0 s.bytes).2

/-- The number of bytes past the macros. -/
def free (s : Storage) : Nat := s.size - s.used

/-- The first macro of a name. -/
def find? (s : Storage) (name : String) : Option MacroEntry :=
  s.entries.find? (·.name == name)

/-- The body of the macro of a name. -/
def body? (s : Storage) (name : String) : Option String :=
  (s.find? name).map (·.body)

/-- The bytes of a macro. -/
def encodeEntry (name body : String) : List UInt8 :=
  Utf8.encode name ++ 0 :: Utf8.encode body ++ [0]

/-- Takes an entry out: the bytes from its end up to the end of all entries move down, and as many
bytes below that end are erased. -/
def cut (s : Storage) (entry : MacroEntry) : Storage :=
  let fin := s.used
  ⟨s.bytes.take entry.offset ++ (s.bytes.take fin).drop (entry.offset + entry.length) ++
    List.replicate entry.length erased ++ s.bytes.drop fin⟩

/-- Writes a macro at an address. -/
def putEntry (s : Storage) (address : Nat) (name body : String) : Storage :=
  let bytes := encodeEntry name body
  ⟨s.bytes.take address ++ bytes ++ s.bytes.drop (address + bytes.length)⟩

/-- Stores a macro in place of the one of that name, if there is one. Where it does not fit,
nothing changes. -/
def define (s : Storage) (name body : String) : Except HostError Storage :=
  let existing := s.find? name
  let needed := Utf8.size name + Utf8.size body + 2
  let available := s.free + (existing.map (·.length)).getD 0
  if available < needed then .error (.storageFull needed available)
  else
    match existing with
    | some entry => .ok ((s.cut entry).putEntry (s.used - entry.length) name body)
    | none       => .ok (s.putEntry s.used name body)

/-- Removes the macro of a name; nothing where there is none. -/
def remove? (s : Storage) (name : String) : Option Storage :=
  (s.find? name).map s.cut

end Storage

end BoardConsole
