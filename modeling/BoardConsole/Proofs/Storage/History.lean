import BoardConsole.Proofs.Storage.Packed

/-!
# Storage — A history of the macro store

The store is a list of macros.  `Storage.play` runs a history of definitions, removals and
erasures on a storage, `MacroList.play` on a list of macros within a number of bytes, and both
answer what each operation replied.

* `history_refines`: from a fresh storage, whatever the history, the replies are those of the
  list, and the storage shows the list (`Shows`): its bytes, its entries with their places, every
  look-up, and the used and free bytes.

A step lemma (`step_refines`) says what one operation does to a storage that holds a list; a
history is an induction over its operations.  What holds after every history holds after every
operation of one, since the operations up to there are a history too.
-/

namespace BoardConsole

/-- One operation on stored macros. -/
inductive MacroOp where
  | define (name body : String)
  | remove (name : String)
  | erase
deriving DecidableEq, Repr

/-- What an operation replies. -/
inductive MacroReply where
  | done
  | failed (error : HostError)
  /-- Whether there was a macro to remove. -/
  | removed (existed : Bool)
deriving DecidableEq, Repr

namespace MacroOp

/-- The names and bodies of an operation hold no NUL. -/
def NulFree : MacroOp → Prop
  | define name body => Storage.NulFree name ∧ Storage.NulFree body
  | remove name      => Storage.NulFree name
  | erase            => True

end MacroOp

namespace Storage

/-- Runs one operation. -/
def step (s : Storage) : MacroOp → MacroReply × Storage
  | .define name body =>
    match s.define name body with
    | .ok t    => (.done, t)
    | .error e => (.failed e, s)
  | .remove name =>
    match s.remove? name with
    | some t => (.removed true, t)
    | none   => (.removed false, s)
  | .erase => (.done, s.eraseAll)

/-- Runs a history. -/
def play : List MacroOp → Storage → List MacroReply × Storage
  | [],        s => ([], s)
  | op :: ops, s =>
    let (reply, s) := s.step op
    let (replies, s) := play ops s
    (reply :: replies, s)

end Storage

namespace MacroList

/-- Runs one operation on a list that may take `room` bytes. A definition takes the macro of that
name out and appends the new one; it fails, and changes nothing, where the list would then take
more bytes than there are. -/
def step (room : Nat) (m : MacroList) : MacroOp → MacroReply × MacroList
  | .define name body =>
    let others := m.without name
    let defined := others ++ [(name, body)]
    if defined.size ≤ room then (.done, defined)
    else (.failed (.storageFull (entrySize (name, body)) (room - others.size)), m)
  | .remove name => (.removed (m.any (·.1 == name)), m.without name)
  | .erase       => (.done, [])

/-- Runs a history. -/
def play (room : Nat) : List MacroOp → MacroList → List MacroReply × MacroList
  | [],        m => ([], m)
  | op :: ops, m =>
    let (reply, m) := step room m op
    let (replies, m) := play room ops m
    (reply :: replies, m)

end MacroList

namespace Storage
open MacroList

/-- All that can be seen of a storage of `size` bytes is the list. -/
structure Shows (s : Storage) (size : Nat) (m : MacroList) : Prop where
  bytes    : s.bytes = m.encode ++ List.replicate (size - m.size) erased
  fits     : m.size ≤ size
  distinct : (m.map (·.1)).Nodup
  entries  : s.entries = m.layout 0
  find     : ∀ name, s.body? name = m.lookup name
  used     : s.used = m.size
  free     : s.free = size - m.size

theorem Holds.shows {s : Storage} {m : MacroList} (h : s.Holds m) : s.Shows s.size m where
  bytes    := h.bytes_eq
  fits     := h.fits
  distinct := h.distinct
  entries  := entries_of_holds h
  find     := body?_of_holds h
  used     := used_of_holds h
  free     := free_of_holds h

/-- **One operation** on a storage that holds a list replies what the list does, and the storage
holds the list changed in the same way. -/
theorem step_refines {s : Storage} {m : MacroList} (h : s.Holds m) {op : MacroOp}
    (hop : op.NulFree) :
    (s.step op).1 = (m.step s.size op).1 ∧ (s.step op).2.Holds (m.step s.size op).2 ∧
      (s.step op).2.size = s.size := by
  cases op with
  | define name body =>
      have hsize : MacroList.size (m.without name ++ [(name, body)])
          = (m.without name).size + entrySize (name, body) := by
        rw [size_append, size_cons, size_nil, Nat.add_zero]
      simp only [Storage.step, MacroList.step, hsize]
      by_cases hfit : (m.without name).size + entrySize (name, body) ≤ s.size
      · obtain ⟨t, ht, hholds, htsize⟩ := h.define hop hfit
        rw [ht, if_pos hfit]
        exact ⟨rfl, hholds, htsize⟩
      · rw [h.define_full (by omega), if_neg hfit]
        exact ⟨rfl, h, rfl⟩
  | remove name =>
      simp only [Storage.step, MacroList.step]
      by_cases hname : name ∈ m.map (·.1)
      · obtain ⟨t, ht, hholds, htsize⟩ := h.remove hname
        have hany : m.any (·.1 == name) = true := by
          rw [List.any_eq_true]
          obtain ⟨p, hp, e⟩ := List.mem_map.1 hname
          exact ⟨p, hp, beq_iff_eq.2 e⟩
        rw [ht, hany]
        exact ⟨rfl, hholds, htsize⟩
      · have hany : m.any (·.1 == name) = false := by
          rw [List.any_eq_false]
          intro p hp e
          exact hname (beq_iff_eq.1 e ▸ List.mem_map_of_mem hp)
        rw [h.remove_absent hname, hany, without_of_notMem hname]
        exact ⟨rfl, h, rfl⟩
  | erase => exact ⟨rfl, holds_eraseAll s, size_eraseAll s⟩

/-- A whole history, from any storage that holds a list. -/
theorem play_refines {ops : List MacroOp} (hops : ∀ op ∈ ops, op.NulFree) {s : Storage}
    {m : MacroList} (h : s.Holds m) :
    (play ops s).1 = (m.play s.size ops).1 ∧ (play ops s).2.Holds (m.play s.size ops).2 ∧
      (play ops s).2.size = s.size := by
  induction ops generalizing s m with
  | nil => exact ⟨rfl, h, rfl⟩
  | cons op ops ih =>
      rw [List.forall_mem_cons] at hops
      obtain ⟨hreply, hholds, hsize⟩ := step_refines h hops.1
      obtain ⟨hreplies, hend, hendsize⟩ := ih hops.2 hholds
      simp only [Storage.play, MacroList.play]
      rw [hsize] at hreplies hend hendsize
      exact ⟨congrArg₂ _ hreply hreplies, hend, hendsize⟩

/-- **The packed store refines an ordered list of macros.**  After any history on a fresh storage
the replies are those of the list, and the storage shows it: packed bytes followed by erased ones,
entries at their places, look-ups, and used and free bytes. -/
theorem history_refines (size : Nat) {ops : List MacroOp} (hops : ∀ op ∈ ops, op.NulFree) :
    (play ops (fresh size)).1 = (MacroList.play size ops []).1 ∧
      (play ops (fresh size)).2.Shows size (MacroList.play size ops []).2 := by
  obtain ⟨hreplies, hholds, hsize⟩ := play_refines hops (holds_fresh size)
  rw [size_fresh] at hreplies hholds hsize
  have hshows := hholds.shows
  rw [hsize] at hshows
  exact ⟨hreplies, hshows⟩

/-- A full store of eight bytes: a macro that moves to the end, and one that does not fit. -/
theorem history_refines_full :
    (∀ op ∈ [MacroOp.define "a" "1", .define "" "", .define "a" "23", .define "b" "", .remove ""],
      op.NulFree) ∧
    (play [MacroOp.define "a" "1", .define "" "", .define "a" "23", .define "b" "", .remove ""]
      (fresh 8)).1 = [.done, .done, .done, .failed (.storageFull 3 1), .removed true] := by
  have hnul : ∀ op ∈ [MacroOp.define "a" "1", .define "" "", .define "a" "23", .define "b" "",
      .remove ""], op.NulFree := by
    simp [MacroOp.NulFree, NulFree]
  refine ⟨hnul, ?_⟩
  rw [(history_refines 8 hnul).1]
  decide

end Storage

end BoardConsole
