import Uvcd.Lib.Ring
import Uvcd.Model.Base

/-!
# `Model.List` — intrusive lists (`list.h`)

A `struct list_entry` is known by its address. Every read and every write of a link is one of memory (`Lib.Ring`), in
the order the C statements make them; an access to memory that is not live ends in `none`.
-/

namespace Uvcd

open Ring

variable {P : Type} [DecidableEq P]

/-- An access to memory that is not live follows an invalid pointer. -/
def deref {α : Type} : Option α → Except Fault α
  | some a => .ok a
  | none => .error .badPointer

def listInit (m : Heap P) (list : P) : Option (Heap P) := do
  let m ← m.setNext list list
  m.setPrev list list

def listEmpty (m : Heap P) (list : P) : Option Bool := (m.next list).map fun first => decide (first = list)

def listAppend (m : Heap P) (entry list : P) : Option (Heap P) := do
  let m ← m.setNext entry list
  let m ← m.setPrev entry (← m.prev list)
  let m ← m.setNext (← m.prev list) entry
  m.setPrev list entry

def listPrepend (m : Heap P) (entry list : P) : Option (Heap P) := do
  let m ← m.setNext entry (← m.next list)
  let m ← m.setPrev entry list
  let m ← m.setPrev (← m.next list) entry
  m.setNext list entry

def listInsertAfter (m : Heap P) (entry after : P) : Option (Heap P) := listPrepend m entry after

def listInsertBefore (m : Heap P) (entry before : P) : Option (Heap P) := listAppend m entry before

def listRemove (m : Heap P) (entry : P) : Option (Heap P) := do
  let m ← m.setNext (← m.prev entry) (← m.next entry)
  m.setPrev (← m.next entry) (← m.prev entry)

/-! ## Walks

`n` bounds the entries passed: a walk that is still under way after `n` of them ends in `none`, too. -/

/-- `list_for_each`, `list_for_each_entry`: the entries the loop passes. -/
def listForEach (m : Heap P) (list : P) (n : Nat) : Option (List P) := m.next list >>= walk m list n

/-- `list_for_each_safe`, `list_for_each_entry_safe`, on states that hold memory; `body` answers `false` for a
    `break`. -/
def listForEachSafe {σ : Type} (links : σ → Heap P) (body : P → σ → Option (Bool × σ)) (list : P) (n : Nat) (s : σ) :
    Option σ := do
  let entry ← (links s).next list
  let next ← (links s).next entry
  walkSafe (fun s => (links s).next) body list n entry next s

/-- The loop of a `list_for_each_entry_safe` whose body is `if (hit) break;`, and the cursor it leaves. -/
def cursorLoop (m : Heap P) (hit : P → Bool) (list : P) : Nat → P → P → Option P
  | 0, _, _ => none
  | n + 1, entry, next =>
    if entry = list then some entry
    else if hit entry then some entry
    else do
      let next' ← m.next next
      cursorLoop m hit list n next next'

def listCursor (m : Heap P) (hit : P → Bool) (list : P) (n : Nat) : Option P := do
  let entry ← m.next list
  let next ← m.next entry
  cursorLoop m hit list n entry next

/-- `list_entry`, for links at offset `off`. -/
def listEntry (off entry : Nat) : Nat := entry - off

end Uvcd
